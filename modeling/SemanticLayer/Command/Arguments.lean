/-!
# Arguments of the command line

The command line names one of three tasks, with options before and after its name. An option has a
long name and perhaps a letter; its value stands in the next argument or, after an equals sign or
directly after the letter, in the same one. Options may not be repeated. After a double dash,
everything is positional.

Arguments are taken from the left, so that a request for help or for the version is granted unless
something before it is wrong. A path must not be empty.
-/

namespace SemanticLayer.Command

/-! ### Tasks -/

/-- What to render primitives for. -/
structure PrimitiveOptions where
  /-- The expression of the column. -/
  column : String
  /-- The name of the dialect. -/
  dialect : Option String
  /-- The name of the granularity. -/
  granularity : Option String
  /-- The timezone. -/
  timezone : Option String
  /-- The first bound of a series. -/
  first : Option String
  /-- The last bound of a series. -/
  last : Option String
  deriving DecidableEq, Repr

/-- A task of the program. -/
inductive Task where
  /-- Respond to the requests of a file. -/
  | transform (file : String) (compact pretty : Bool)
  /-- Render every primitive of a dialect. -/
  | primitives (options : PrimitiveOptions)
  /-- List the dialects. -/
  | dialects
  deriving DecidableEq, Repr

/-- What the command line asks for. -/
inductive Invocation where
  /-- A task, with the path of the settings if one is given. -/
  | task (config : Option String) (task : Task)
  /-- The version of the program. -/
  | version
  /-- How the program is used. -/
  | help
  deriving DecidableEq, Repr

/-! ### Options -/

/-- What an option does. -/
inductive OptionKind where
  /-- It takes a text. -/
  | text
  /-- It takes a path. -/
  | path
  /-- It is on or off. -/
  | flag
  /-- It asks for the version. -/
  | version
  /-- It asks for help. -/
  | help
  deriving DecidableEq, Repr

/-- An option that may be given. -/
structure OptionSpec where
  /-- The name after two dashes. -/
  long : String
  /-- The letter after one dash. -/
  short : Option Char
  /-- What it does. -/
  kind : OptionKind
  deriving DecidableEq, Repr

/-- The options that stand anywhere. -/
def commonOptions : List OptionSpec :=
  [⟨"config", none, .path⟩, ⟨"help", some 'h', .help⟩]

/-- The options before the name of the task. -/
def programOptions : List OptionSpec :=
  ⟨"version", some 'V', .version⟩ :: commonOptions

/-- The options of `transform`. -/
def transformOptions : List OptionSpec :=
  ⟨"compact", none, .flag⟩ :: ⟨"pretty", none, .flag⟩ :: commonOptions

/-- The options of `primitives`. -/
def primitiveOptions : List OptionSpec :=
  ⟨"dialect", some 'd', .text⟩ :: ⟨"column", some 'c', .text⟩ ::
    ⟨"granularity", some 'g', .text⟩ :: ⟨"timezone", some 't', .text⟩ ::
    ⟨"from", none, .text⟩ :: ⟨"to", none, .text⟩ :: commonOptions

/-! ### Taking arguments -/

/-- What has been given so far. -/
structure Given where
  /-- The options with their values; a flag has an empty one. -/
  options : List (String × String)
  /-- The positional arguments, the latest first. -/
  positionals : List String
  deriving DecidableEq, Repr

/-- How far the arguments have been taken. -/
inductive Progress where
  /-- Options have been given, and these arguments are left. -/
  | more (given : Given) (rest : List String)
  /-- The version has been asked for. -/
  | version
  /-- Help has been asked for. -/
  | help

/-- Whether an argument may be the value of the option before it. -/
def isValue (argument : String) : Bool :=
  argument == "-" || !argument.startsWith "-"

/-- Adds an option that has not been given before. -/
def Given.add? (given : Given) (spec : OptionSpec) (value : String) : Option Given :=
  if (given.options.lookup spec.long).isSome then none
  else if spec.kind = .path ∧ value.isEmpty then none
  else some { given with options := (spec.long, value) :: given.options }

/-- Adds an option whose value, if it stands in the same argument, is known. -/
def Given.addOption? (given : Given) (spec : OptionSpec) (value : Option String)
    (rest : List String) : Option Progress :=
  match spec.kind, value, rest with
  | .text, some value, rest | .path, some value, rest =>
    (given.add? spec value).map (.more · rest)
  | .text, none, value :: rest | .path, none, value :: rest =>
    if isValue value then (given.add? spec value).map (.more · rest) else none
  | .flag, none, rest => (given.add? spec "").map (.more · rest)
  | .version, none, _ => some .version
  | .help, none, _ => some .help
  | _, _, _ => none

/-- Takes an option by its long name, with or without a value after an equals sign. -/
def takeLong (specs : List OptionSpec) (given : Given) (text : List Char) (rest : List String) :
    Option Progress := do
  let name := String.ofList (text.takeWhile (· != '='))
  let spec ← specs.find? (·.long == name)
  let value := match text.dropWhile (· != '=') with
    | '=' :: value => some (String.ofList value)
    | _ => none
  given.addOption? spec value rest

/-- Takes options by their letters. A letter that takes a value takes what is left of its
argument. -/
def takeShort (specs : List OptionSpec) (rest : List String) :
    Given → List Char → Option Progress
  | given, [] => some (.more given rest)
  | given, letter :: letters => do
    let spec ← specs.find? (·.short == some letter)
    match spec.kind with
    | .flag => takeShort specs rest (← given.add? spec "") letters
    | .text | .path =>
      let value := match letters with
        | [] => none
        | '=' :: value => some (String.ofList value)
        | value => some (String.ofList value)
      given.addOption? spec value rest
    | .version => some .version
    | .help => some .help

/-- Takes the options and the positional arguments of a task, of which there are at most `most`. -/
def takeAll (specs : List OptionSpec) (most : Nat) : Nat → Given → List String → Option Progress
  | 0, _, _ => none
  | _ + 1, given, [] => some (.more given [])
  | fuel + 1, given, argument :: rest =>
    let addPositional (given : Given) (argument : String) : Option Given :=
      if given.positionals.length < most then
        some { given with positionals := argument :: given.positionals }
      else none
    match argument.toList with
    | ['-', '-'] => (rest.foldlM addPositional given).map (.more · [])
    | '-' :: '-' :: text => do
      match ← takeLong specs given text rest with
      | .more given rest => takeAll specs most fuel given rest
      | stop => some stop
    | '-' :: letter :: letters => do
      match ← takeShort specs rest given (letter :: letters) with
      | .more given rest => takeAll specs most fuel given rest
      | stop => some stop
    | _ => (addPositional given argument).bind fun given ↦ takeAll specs most fuel given rest

/-- Takes the options before the name of a task. -/
def takeLeading (specs : List OptionSpec) : Nat → Given → List String → Option Progress
  | 0, _, _ => none
  | _ + 1, given, [] => some (.more given [])
  | fuel + 1, given, argument :: rest =>
    match argument.toList with
    | ['-', '-'] => none
    | '-' :: '-' :: text => do
      match ← takeLong specs given text rest with
      | .more given rest => takeLeading specs fuel given rest
      | stop => some stop
    | '-' :: letter :: letters => do
      match ← takeShort specs rest given (letter :: letters) with
      | .more given rest => takeLeading specs fuel given rest
      | stop => some stop
    | _ => some (.more given (argument :: rest))

/-! ### Tasks from arguments -/

/-- Whether a flag has been given. -/
def Given.hasFlag (given : Given) (name : String) : Bool :=
  (given.options.lookup name).isSome

/-- The task `transform`, which needs a file. -/
def transformTask? (given : Given) : Option Task :=
  match given.positionals with
  | [file] =>
    if file.isEmpty then none
    else some (.transform file (given.hasFlag "compact") (given.hasFlag "pretty"))
  | _ => none

/-- The task `primitives`, which needs a column. -/
def primitivesTask? (given : Given) : Option Task := do
  let option (name : String) := given.options.lookup name
  let column ← option "column"
  return .primitives ⟨column, option "dialect", option "granularity", option "timezone",
    option "from", option "to"⟩

/-- Takes the arguments after the name of a task. A path of settings given there counts rather than
one given before. -/
def taskOf? (specs : List OptionSpec) (most : Nat) (build : Given → Option Task)
    (config : Option String) (arguments : List String) : Option Invocation := do
  match ← takeAll specs most (arguments.length + 1) ⟨[], []⟩ arguments with
  | .more given _ => (build given).map (.task ((given.options.lookup "config").or config))
  | .version => some .version
  | .help => some .help

/-- What the arguments ask for; none if they are wrong. -/
def parseArguments? (arguments : List String) : Option Invocation := do
  match ← takeLeading programOptions (arguments.length + 1) ⟨[], []⟩ arguments with
  | .version => some .version
  | .help => some .help
  | .more given rest =>
    let config := given.options.lookup "config"
    match rest with
    | "transform" :: rest => taskOf? transformOptions 1 transformTask? config rest
    | "primitives" :: rest => taskOf? primitiveOptions 0 primitivesTask? config rest
    | "dialects" :: rest => taskOf? commonOptions 0 (fun _ ↦ some .dialects) config rest
    | ["help"] => some .help
    | ["help", name] =>
      if ["transform", "primitives", "dialects", "help"].contains name then some .help else none
    | _ => none

end SemanticLayer.Command
