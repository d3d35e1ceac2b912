/-!
# Arguments of the command line

The arguments are read from left to right. Options have a long and a short name; an option with
a value takes it from the rest of its argument or from the next argument, which must not look
like an option itself. A short argument may hold several short names. Nothing may be given
twice. The argument `--` ends the options. Asking for the version or for help ends the reading
at once, so faults further right do not count.

The `clap` library is taken to read arguments like this. Its texts for refused arguments, with their
usage lines and proposals, are not kept: `UsageError` tells the causes apart and no more.
-/

namespace Shorthand.Cli

/-- The forms in which a document can be put out. -/
inductive Format where
  | html
  | json
deriving DecidableEq, Repr

/-- A conversion as the arguments ask for it. -/
structure Command where
  path : String
  output : Option String
  config : Option String
  format : Format
  strict : Bool
  verbose : Bool
deriving DecidableEq, Repr

/-- What the arguments ask for. -/
inductive Request where
  | convert (command : Command)
  | version
  | help
deriving DecidableEq, Repr

/-- Why arguments are refused. -/
inductive UsageError where
  | nothingGiven
  | pathMissing
  | unexpected (argument : String)
  | valueMissing (name : String)
  | valueUnexpected (name : String)
  | unknownFormat (value : String)
  | givenTwice (name : String)
deriving DecidableEq, Repr

/-- The cause in words. -/
def UsageError.message : UsageError → String
  | nothingGiven => "no arguments were given"
  | pathMissing => "the path of the source is missing"
  | unexpected argument => "unexpected argument '" ++ argument ++ "'"
  | valueMissing name => "a value is required for '" ++ name ++ "'"
  | valueUnexpected name => "no value is expected for '" ++ name ++ "'"
  | unknownFormat value => "unknown format '" ++ value ++ "': expected html or json"
  | givenTwice name => "'" ++ name ++ "' cannot be given more than once"

/-! ## Options -/

/-- An option that takes a value. -/
inductive ValueOption where
  | output
  | config
  | format
deriving DecidableEq, Repr

/-- An option that is either given or not. -/
inductive Flag where
  | strict
  | verbose
deriving DecidableEq, Repr

/-- What a name of an option stands for. -/
inductive Switch where
  | value (option : ValueOption)
  | flag (flag : Flag)
  | version
  | help
deriving DecidableEq, Repr

/-- The options by their long names. -/
def longNames : List (String × Switch) :=
  [("output", .value .output), ("config", .value .config), ("format", .value .format),
    ("strict", .flag .strict), ("verbose", .flag .verbose), ("version", .version),
    ("help", .help)]

/-- The options by their short names. -/
def shortNames : List (Char × Switch) :=
  [('o', .value .output), ('c', .value .config), ('f', .value .format), ('v', .flag .verbose),
    ('V', .version), ('h', .help)]

/-! ## Drafts -/

/-- What the arguments have said so far. -/
structure Draft where
  path : Option String := none
  output : Option String := none
  config : Option String := none
  format : Option Format := none
  strict : Bool := false
  verbose : Bool := false
deriving DecidableEq, Repr

namespace Draft

/-- The command of a finished draft; documents are put out as HTML unless said otherwise. -/
def complete (draft : Draft) : Except UsageError Request :=
  match draft.path with
  | some path => .ok (.convert ⟨path, draft.output, draft.config, draft.format.getD .html,
      draft.strict, draft.verbose⟩)
  | none => .error .pathMissing

/-- Takes the path of the source. -/
def addPath (draft : Draft) (path : String) : Except UsageError Draft :=
  if draft.path.isSome then .error (.unexpected path) else .ok { draft with path := path }

/-- Takes a flag. -/
def addFlag (draft : Draft) (name : String) : Flag → Except UsageError Draft
  | .strict =>
    if draft.strict then .error (.givenTwice name) else .ok { draft with strict := true }
  | .verbose =>
    if draft.verbose then .error (.givenTwice name) else .ok { draft with verbose := true }

/-- Takes the value of an option. -/
def addValue (draft : Draft) (name value : String) : ValueOption → Except UsageError Draft
  | .output =>
    if draft.output.isSome then .error (.givenTwice name)
    else .ok { draft with output := value }
  | .config =>
    if draft.config.isSome then .error (.givenTwice name)
    else .ok { draft with config := value }
  | .format =>
    if draft.format.isSome then .error (.givenTwice name)
    else if value = "html" then .ok { draft with format := some .html }
    else if value = "json" then .ok { draft with format := some .json }
    else .error (.unknownFormat value)

end Draft

/-! ## Single arguments -/

/-- What the reading of an argument leads to. -/
inductive Step where
  /-- Go on with the next argument. -/
  | next (draft : Draft)
  /-- The next argument is the value of an option. -/
  | await (draft : Draft) (name : String) (option : ValueOption)
  /-- Answer at once. -/
  | answer (request : Request)

/-- Whether an argument looks like an option: a dash and something behind it. -/
def looksLikeOption (argument : String) : Bool :=
  match argument.toList with
  | '-' :: _ :: _ => true
  | _ => false

/-- Reads an option by its long name, with the value behind an equals sign if there is one. -/
def readLong (draft : Draft) (text : List Char) : Except UsageError Step :=
  let name := String.ofList (text.takeWhile (· ≠ '='))
  let shown := "--" ++ name
  let attached? := match text.dropWhile (· ≠ '=') with
    | _ :: value => some (String.ofList value)
    | [] => none
  match longNames.lookup name, attached? with
  | none, _ => .error (.unexpected shown)
  | some (.value option), some value => .next <$> draft.addValue shown value option
  | some (.value option), none => .ok (.await draft shown option)
  | some _, some _ => .error (.valueUnexpected shown)
  | some (.flag flag), none => .next <$> draft.addFlag shown flag
  | some .version, none => .ok (.answer .version)
  | some .help, none => .ok (.answer .help)

/-- Reads short names one after the other. An option with a value takes what is left of the
argument, without an equals sign in front of it. -/
def readShort (draft : Draft) : List Char → Except UsageError Step
  | [] => .ok (.next draft)
  | c :: rest =>
    let shown := "-" ++ c.toString
    match shortNames.lookup c with
    | none => .error (.unexpected shown)
    | some .version => .ok (.answer .version)
    | some .help => .ok (.answer .help)
    | some (.flag flag) =>
      match draft.addFlag shown flag with
      | .ok draft => readShort draft rest
      | .error error => .error error
    | some (.value option) =>
      match rest with
      | [] => .ok (.await draft shown option)
      | '=' :: value => .next <$> draft.addValue shown (String.ofList value) option
      | value => .next <$> draft.addValue shown (String.ofList value) option

/-- Reads one argument that is not `--`. -/
def readArgument (draft : Draft) (argument : String) : Except UsageError Step :=
  match argument.toList with
  | '-' :: '-' :: text => readLong draft text
  | '-' :: c :: rest => readShort draft (c :: rest)
  | _ => .next <$> draft.addPath argument

/-! ## All arguments -/

/-- Reads arguments after the others have been read. -/
def readFrom (draft : Draft) : List String → Except UsageError Request
  | [] => draft.complete
  | argument :: rest =>
    -- behind the two dashes everything is a path
    if argument = "--" then (rest.foldlM Draft.addPath draft).bind Draft.complete
    else
      match readArgument draft argument with
      | .error error => .error error
      | .ok (.answer request) => .ok request
      | .ok (.next draft) => readFrom draft rest
      | .ok (.await draft name option) =>
        match rest with
        | [] => .error (.valueMissing name)
        | value :: rest =>
          if looksLikeOption value then .error (.valueMissing name)
          else
            match draft.addValue name value option with
            | .error error => .error error
            | .ok draft => readFrom draft rest

/-- What the arguments ask for. -/
def request (arguments : List String) : Except UsageError Request :=
  if arguments = [] then .error .nothingGiven else readFrom {} arguments

end Shorthand.Cli
