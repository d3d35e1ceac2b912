import Shorthand.Config.Error
import Shorthand.Config.Setting
import Shorthand.Element.Html
import Shorthand.Files.Session
import Shorthand.Parse.Options
import Shorthand.Text.Quoted
import Shorthand.Toml.Document

/-!
# Configurations

A configuration says how sources are parsed and how documents are laid out. It is put together
from built-in defaults and from files, each of which goes over what was there, and is read off
the settings at the end. A file that cannot be had or is not well-formed ends the loading; the
files are taken in order, so the first such file decides.

The `config` library is taken to look for a file under its name and, when nothing is there, under
the name with `.toml` behind it; to read a section from a table or from a list of its fields; and to
tell words apart without their case. What it says of a file that is not well-formed is kept to its
first words.
-/

namespace Shorthand

/-- How sources are parsed and documents are laid out. -/
structure Configuration where
  parsing : ParseOptions := {}
  rendering : RenderOptions := {}
deriving DecidableEq, Repr

namespace Config

/-! ## Words -/

/-- The word that a setting gives: a text, or the only key of a table. -/
def givenWord? : Setting → Option String
  | .scalar (.text word) => some word
  | .table _ [(key, _)] => some key
  | _ => none

/-- Chooses by a word, upper and lower case alike. -/
def choose {α : Type} (choice : String) (all : List α) (word : α → String) (setting : Setting) :
    Except ConfigError α :=
  match givenWord? setting with
  | none => .error (.notAWord choice)
  | some given =>
    match all.find? fun item => Text.lowerCase (word item) = Text.lowerCase given with
    | some item => .ok item
    | none => .error (.unknownWord choice given)

/-- Reads a line policy. -/
def linePolicy : Setting → Except ConfigError LinePolicy :=
  choose "LinePolicy" LinePolicy.all LinePolicy.word

/-- Reads a depth policy. -/
def depthPolicy : Setting → Except ConfigError DepthPolicy :=
  choose "DepthPolicy" DepthPolicy.all DepthPolicy.word

/-- Reads line endings. -/
def lineEndings : Setting → Except ConfigError LineEndings :=
  choose "LineEndings" LineEndings.all LineEndings.word

/-- Reads a text; `key` is where it stands. -/
def textAt (key : String) : Setting → Except ConfigError String
  | .nothing => .error (.notText "unit value" key none)
  | .scalar value => .ok value.asText
  | .list origin _ => .error (.notText "sequence" key origin)
  | .table origin _ => .error (.notText "map" key origin)

/-! ## Sections -/

/-- What a scalar is called when it stands where a section should be. -/
def Scalar.described : Scalar → String
  | text value => "string " ++ Text.quoted value
  | integer value => "integer `" ++ toString value ++ "`"
  | floating value => "floating point `" ++ value.pointedText ++ "`"
  | boolean value => "boolean `" ++ (if value then "true" else "false") ++ "`"

/-- A field of a section: by its key in a table, by its place in a list. -/
inductive FieldSource where
  | table (entries : Entries)
  | list (items : List Setting)

/-- The setting of a field and the text that says where it stands, if it is there. -/
def FieldSource.field? (fields : FieldSource) (home key : String) (place : Nat) :
    Option (String × Setting) :=
  match fields with
  | table entries => (entries.lookup key).map fun setting => (home ++ "." ++ key, setting)
  | list items => items[place]?.map fun setting =>
      (home ++ "[" ++ toString place ++ "]", setting)

/-- The fields of a section. -/
def fieldSource (expected : String) : Setting → Except ConfigError FieldSource
  | .table _ entries => .ok (.table entries)
  | .list _ items => .ok (.list items)
  | .scalar value => .error (.notASection value.described expected)
  | .nothing => .error (.notASection "unit value" expected)

/-- Reads a field, which has a default when it is not there. -/
def readField {α : Type} (fields : FieldSource) (home key : String) (place : Nat)
    (default : α) (read : String → Setting → Except ConfigError α) : Except ConfigError α :=
  match fields.field? home key place with
  | some (position, setting) => read position setting
  | none => .ok default

/-- Reads the section on parsing. -/
def parsingSection (setting : Setting) : Except ConfigError ParseOptions := do
  let fields ← fieldSource "ParseOptions" setting
  let lines ← readField fields "parsing" "unrecognized-lines" 0 .skip fun _ => linePolicy
  let depth ← readField fields "parsing" "depth" 1 .clamp fun _ => depthPolicy
  let endings ← readField fields "parsing" "line-endings" 2 .any fun _ => lineEndings
  return ⟨lines, depth, endings⟩

/-- Reads the section on rendering. -/
def renderingSection (setting : Setting) : Except ConfigError RenderOptions := do
  let fields ← fieldSource "RenderOptions" setting
  let indent ← readField fields "rendering" "indent" 0 "\t" textAt
  return ⟨indent⟩

/-- A section by its name; one that is not there is an empty table. -/
def sectionOf (settings : Entries) (name : String) : Setting :=
  (settings.lookup name).getD (.table none [])

/-- Reads a configuration off settings, parsing before rendering. -/
def configurationOf (settings : Entries) : Except ConfigError Configuration := do
  let parsing ← parsingSection (sectionOf settings "parsing")
  let rendering ← renderingSection (sectionOf settings "rendering")
  return ⟨parsing, rendering⟩

/-- The lines of the built-in file. -/
def defaultLines : List String :=
  ["# Default configuration for the tagline toolchain.",
    "#",
    "# User files and command-line flags are layered on top of these values.",
    "",
    "[parsing]",
    "# What to do with non-blank lines that are not shorthand: \"skip\" or \"reject\".",
    "unrecognized-lines = \"skip\"",
    "# Indentation deeper than the open elements: \"clamp\" to the deepest one, or \"reject\".",
    "depth = \"clamp\"",
    "# Line splitting: \"any\" (\\n, with an optional \\r before it) or \"crlf\" (\\r\\n only).",
    "line-endings = \"any\"",
    "",
    "[rendering]",
    "# Placed in front of every child element.",
    "indent = \"\\t\""]

/-- The built-in file. -/
def defaultText : String :=
  String.ofList (defaultLines.flatMap fun line => line.toList ++ ['\n'])

/-- The settings that hold when no file says otherwise: those of the built-in file. -/
def defaultSettings : Entries :=
  [("parsing", .table none
      [("unrecognized-lines", .scalar (.text "skip")), ("depth", .scalar (.text "clamp")),
        ("line-endings", .scalar (.text "any"))]),
    ("rendering", .table none [("indent", .scalar (.text "\t"))])]

/-! ## Files -/

/-- The path with `.toml` behind its last name, if it has a last name. -/
def withExtension? (path : String) : Option String :=
  let names := (Text.splitOn '/' path.toList).reverse.dropWhile fun name =>
    name.isEmpty || name = ['.']
  match names with
  | [] => none
  | last :: before =>
    if last = ['.', '.'] then none
    else some (String.ofList (['/'].intercalate
      (before.reverse ++ [last ++ ['.', 't', 'o', 'm', 'l']])))

/-- How many components two paths start with alike. -/
def sharedLength : FilePath → FilePath → Nat
  | first :: rest, first' :: rest' => if first = first' then sharedLength rest rest' + 1 else 0
  | _, _ => 0

/-- A path as errors name a file: how to get there from a directory, without empty names and single
dots. -/
def pathFrom (place : FilePath) (path : String) : String :=
  let names := Directory.names path
  if path.toList.head? = some '/' then
    let shared := sharedLength place names
    "/".intercalate (List.replicate (place.length - shared) ".." ++ names.drop shared)
  else "/".intercalate names

/-- Goes on with the content of a file and the path under which it was found: the path as it is
given, else the path with an extension. A file that is there but cannot be read is not looked for
any further. -/
def findFile {α : Type} (path : String) (next : String → ByteArray → Session ConfigError α) :
    Session ConfigError α :=
  .read path fun answer =>
    match answer with
    | .ok content => next path content
    | .error fault =>
      if fault.isAbsence then
        match withExtension? path with
        | none => .fail (.fileMissing path)
        | some longer => .read longer fun answer =>
            match answer with
            | .ok content => next longer content
            | .error fault => .fail (if fault.isAbsence then .fileMissing path else .fileFault fault)
      else .fail (.fileFault fault)

/-- The content of a configuration file as a table. -/
def readTable (content : ByteArray) : Except ConfigError Toml.Entries :=
  match decodeText content with
  | .error fault => .error (.fileFault fault)
  | .ok text =>
    match Toml.parse? text with
    | some file => .ok file
    | none => .error .malformed

/-- Lays the files over settings, one after the other. -/
def loadLayers (settings : Entries) : List String → Session ConfigError Entries
  | [] => .done settings
  | path :: rest => findFile path fun found content =>
      match readTable content with
      | .ok file => .place fun place =>
          loadLayers (layerOver (pathFrom place found) file settings) rest
      | .error error => .fail error

end Config

namespace Configuration

/-- The configuration without any files. -/
def default : Except ConfigError Configuration := Config.configurationOf Config.defaultSettings

/-- Loads the files and reads the configuration off the settings they leave. -/
def load (paths : List String) : Session ConfigError Configuration := do
  let settings ← Config.loadLayers Config.defaultSettings paths
  Session.ofTraced ⟨[], Config.configurationOf settings⟩

/-- The same configuration with both policies rejecting. -/
def rejecting (configuration : Configuration) : Configuration :=
  { configuration with parsing := configuration.parsing.rejecting }

end Configuration

end Shorthand
