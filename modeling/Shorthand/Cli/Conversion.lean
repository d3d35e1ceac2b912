import Shorthand.Cli.Arguments
import Shorthand.Config.Basic
import Shorthand.Json.Document
import Shorthand.Source.Basic

/-!
# Conversions

What the program does: it loads the configuration, then the source, parses it, and puts the
document out as HTML or as pretty JSON, to a file or by printing it. Whatever fails first ends it,
and nothing is written or printed before everything else has been done. That a result has been
written to a file is not reported here, since nothing depends on the report.
-/

namespace Shorthand.Cli

/-- Why the program fails. -/
inductive Failure where
  | usage (error : UsageError)
  | configuration (error : ConfigError)
  | load (error : LoadError)
deriving DecidableEq, Repr

namespace Failure

/-- The cause in words. -/
def message : Failure → String
  | usage error => "error: " ++ error.message
  | configuration error => "Configuration error: " ++ error.message
  | load error => "Error: " ++ error.message

/-- The exit status of the program. -/
def exitStatus : Failure → Nat
  | usage _ => 2
  | configuration _ | load _ => 1

end Failure

/-- The configuration that a command asks for. -/
def Command.configuration (command : Command) : Session Failure Configuration := do
  let configuration ← (Configuration.load command.config.toList).mapError .configuration
  return if command.strict then configuration.rejecting else configuration

/-- The source of a command, with the options that its configuration asks for. -/
def Command.source (command : Command) : Session Failure Source := do
  let configuration ← command.configuration
  let loaded ← (Source.load command.path).mapError .load
  return { loaded with
    parseOptions := configuration.parsing, renderOptions := configuration.rendering }

/-- Puts a source out as pretty JSON, to a file or by printing it. How documents are laid out as HTML
does not matter. -/
def putJson (source : Source) (output : Option String) : Session LoadError Unit := do
  let document ← Session.ofTraced (source.document.mapError .parse)
  let json := document.json.pretty
  match output with
  | some path => Source.writeFile path json
  | none => .print json (.done ())

/-- Puts a source out as HTML, to a file or by printing it. -/
def putHtml (source : Source) (output : Option String) : Session LoadError Unit :=
  match output with
  | some path => source.writeHtml path
  | none => do
    let html ← Session.ofTraced (source.html.mapError .parse)
    .print html (.done ())

/-- Puts a source out in a format, to a file or by printing it. -/
def Format.put (format : Format) (source : Source) (output : Option String) :
    Session LoadError Unit :=
  match format with
  | .json => putJson source output
  | .html => putHtml source output

/-- Carries out a command. -/
def Command.run (command : Command) : Session Failure Unit := do
  let source ← command.source
  (command.format.put source command.output).mapError .load

/-- The name and the version of the program. -/
def versionText : String := "tagline 0.1.0\n"

/-- The help text of the program. -/
def helpText : String :=
  "Convert indentation-based tag shorthand into HTML\n\n" ++
  "Usage: tagline [OPTIONS] <path>\n\n" ++
  "Arguments:\n" ++
  "  <path>  Path to the shorthand source file\n\n" ++
  "Options:\n" ++
  "  -o, --output <output>  Write the result to this file instead of stdout\n" ++
  "  -c, --config <config>  TOML configuration layered over the built-in defaults\n" ++
  "  -f, --format <format>  Output format [default: html] [possible values: html, json]\n" ++
  "      --strict           Fail on unrecognized lines and malformed indentation\n" ++
  "  -v, --verbose          Log parsing details to stderr\n" ++
  "  -h, --help             Print help\n" ++
  "  -V, --version          Print version\n"

/-- Does what the arguments ask for. -/
def program (arguments : List String) : Session Failure Unit :=
  match request arguments with
  | .error error => .fail (.usage error)
  | .ok .version => .print versionText (.done ())
  | .ok .help => .print helpText (.done ())
  | .ok (.convert command) => command.run

/-- The exit status of the program. -/
def exitStatus : Except Failure Unit → Nat
  | .ok () => 0
  | .error failure => failure.exitStatus

/-! ## Run for its output -/

/-- The program with all that it prints as its result. -/
def run (arguments : List String) : Session Failure String := (program arguments).capture ""

/-- Run for its output, the program does what it does otherwise. -/
theorem runIn_run (arguments : List String) (directory : Directory) :
    (run arguments).runIn directory =
      let ran := (program arguments).runIn directory
      ⟨ran.events, "", ran.outcome.map fun _ => ran.output, ran.directory⟩ := by
  rw [run, Session.runIn_capture]
  simp

end Shorthand.Cli
