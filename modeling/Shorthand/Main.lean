import Shorthand.Cli.Conversion

/-!
# The program

Runs a conversion on the disk. Reads and writes go to the file system, events go to the error
output when the arguments ask for them, and the exit status tells how it ended. Events are chosen by
the arguments alone; no filter is read from the environment.
-/

namespace Shorthand

/-- The number of a fault of the system. Some calls report its negative, as a word. -/
def faultNumber (code : UInt32) : Nat :=
  code.toInt32.toInt.natAbs

/-- What the system says of a file, as a fault. -/
def FileFault.ofSystem (error : IO.Error) : FileFault :=
  match error with
  | .noFileOrDirectory .. => .noSuchFile
  | .inappropriateType _ code _ =>
    if faultNumber code = 21 then .isDirectory else .notDirectory
  | .invalidArgument _ code details =>
    if faultNumber code = 36 then .nameTooLong else .other details
  | .permissionDenied _ code details =>
    if faultNumber code = 13 then .permissionDenied else .other details
  | _ => .other (toString error)

/-- The answer of the system, with a fault in the place of an error. -/
def answered {α : Type} (action : IO α) : IO (Except FileFault α) := do
  match ← action.toBaseIO with
  | .ok result => return .ok result
  | .error error => return .error (FileFault.ofSystem error)

/-- Carries out a session on the disk. -/
def Session.perform {ε α : Type} (heed : Event → IO Unit) : Session ε α → IO (Except ε α)
  | .done result => return .ok result
  | .fail error => return .error error
  | .report event rest => do
    heed event
    rest.perform heed
  | .print text rest => do
    IO.print text
    rest.perform heed
  | .place rest => do
    let place ← IO.currentDir
    (rest (Directory.names place.toString)).perform heed
  | .read path rest => do
    let answer ← answered (IO.FS.readBinFile path)
    (rest answer).perform heed
  | .write path content rest => do
    let answer ← answered (IO.FS.writeFile path content)
    (rest answer).perform heed

/-- Writes an event to the error output. -/
def logEvent (event : Event) : IO Unit :=
  IO.eprintln (event.level.word ++ " " ++ event.message)

/-- Whether the arguments ask for events. -/
def wantsEvents (arguments : List String) (event : Event) : Bool :=
  match Cli.request arguments with
  | .ok (.convert command) => command.verbose && event.level = .debug
  | _ => false

end Shorthand

open Shorthand

/-- Runs the program with its arguments and gives its exit status. -/
def main (arguments : List String) : IO UInt32 := do
  let heed := fun event => if wantsEvents arguments event then logEvent event else pure ()
  let outcome ← (Cli.program arguments).perform heed
  if let .error failure := outcome then IO.eprintln failure.message
  return (Cli.exitStatus outcome).toUInt32
