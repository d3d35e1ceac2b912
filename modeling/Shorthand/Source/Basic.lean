import Shorthand.Files.Session
import Shorthand.Parse.Basic

/-!
# Sources

A source text with the options of its conversion, whether it was given as a text or loaded from
a file. It is parsed to a document, converted to HTML, or converted and written to a file.
-/

namespace Shorthand

/-- Why a source could not be loaded or converted. -/
inductive LoadError where
  | cannotRead (path : String) (fault : FileFault)
  | cannotWrite (path : String) (fault : FileFault)
  | parse (error : ParseError)
deriving DecidableEq, Repr

namespace LoadError

/-- The text of an error of reading or writing. -/
def fileText (detail : String) : String := "IO error: " ++ detail

/-- The cause in words. -/
def message : LoadError → String
  | cannotRead path fault => fileText ("cannot read " ++ path ++ ": " ++ fault.message)
  | cannotWrite path fault => fileText ("cannot write " ++ path ++ ": " ++ fault.message)
  | parse error => "Parse error: " ++ error.message

end LoadError

/-- A source text with the options of its conversion. -/
structure Source where
  text : String
  parseOptions : ParseOptions := {}
  renderOptions : RenderOptions := {}
deriving DecidableEq, Repr

namespace Source

/-- Parses the source. -/
def document (source : Source) : Traced ParseError Document :=
  parse source.parseOptions source.text

/-- Converts the source to HTML. -/
def html (source : Source) : Traced ParseError String :=
  source.document.bind fun document => .ok (document.html source.renderOptions)

/-- Loads a source from a file, with default options. -/
def load (path : String) : Session LoadError Source :=
  .read path fun answer =>
    match answer.bind decodeText with
    | .ok text => .report (.loadedSource path text.utf8ByteSize) (.done { text })
    | .error fault => .fail (.cannotRead path fault)

/-- Writes a text to a file. -/
def writeFile (path content : String) : Session LoadError Unit :=
  .write path content fun answer =>
    match answer with
    | .ok () => .done ()
    | .error fault => .fail (.cannotWrite path fault)

/-- Converts the source to HTML and writes it to a file, which is made or emptied. Nothing is
written when the source cannot be parsed. -/
def writeHtml (source : Source) (path : String) : Session LoadError Unit := do
  let html ← Session.ofTraced (source.html.mapError .parse)
  writeFile path html
  .report (.wroteOutput path html.utf8ByteSize) (.done ())

end Source

end Shorthand
