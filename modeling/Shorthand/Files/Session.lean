import Shorthand.Files.Directory
import Shorthand.Parse.Traced

/-!
# Sessions

A session is a program that reads and writes whole files, prints texts, reports events, and ends
with a result or a failure. It is a tree: after a read or a write it goes on with the answer. What
it has printed stays printed, however it ends. The same session can be run in a directory that is a
value (`runIn`) or by a program on the disk. A file is read and written as a whole, or not at all.
-/

namespace Shorthand

/-- A program over files that ends with a result or with a failure. -/
inductive Session (ε α : Type) where
  /-- The end, with a result. -/
  | done (result : α)
  /-- The end, with a failure. -/
  | fail (error : ε)
  /-- Reports an event. -/
  | report (event : Event) (next : Session ε α)
  /-- Puts out a text. -/
  | print (text : String) (next : Session ε α)
  /-- Asks where the working directory is. -/
  | place (next : FilePath → Session ε α)
  /-- Reads a file. -/
  | read (path : String) (next : Except FileFault ByteArray → Session ε α)
  /-- Writes a text to a file. -/
  | write (path : String) (content : String) (next : Except FileFault Unit → Session ε α)

namespace Session

variable {ε ε' α β : Type}

/-- Goes on with the result; a failure ends the session. -/
def bind : Session ε α → (α → Session ε β) → Session ε β
  | done result, next => next result
  | fail error, _ => fail error
  | report event rest, next => report event (rest.bind next)
  | print text rest, next => print text (rest.bind next)
  | place rest, next => place fun path => (rest path).bind next
  | read path rest, next => read path fun answer => (rest answer).bind next
  | write path content rest, next => write path content fun answer => (rest answer).bind next

instance : Monad (Session ε) where
  pure := done
  bind := bind

/-- Puts the cause of a failure differently. -/
def mapError (f : ε → ε') : Session ε α → Session ε' α
  | done result => done result
  | fail error => fail (f error)
  | report event rest => report event (rest.mapError f)
  | print text rest => print text (rest.mapError f)
  | place rest => place fun path => (rest path).mapError f
  | read path rest => read path fun answer => (rest answer).mapError f
  | write path content rest => write path content fun answer => (rest answer).mapError f

/-- A session that reports events and ends with an outcome. -/
def reporting (outcome : Except ε α) : List Event → Session ε α
  | [] => match outcome with
    | .ok result => done result
    | .error error => fail error
  | event :: rest => report event (reporting outcome rest)

/-- The session that does what is traced. -/
def ofTraced (traced : Traced ε α) : Session ε α := reporting traced.outcome traced.events

/-! ## Running in a directory -/

/-- What a session has come to: its events, all that it has printed, its outcome, and the directory
it leaves. -/
structure Ran (ε α : Type) where
  events : List Event
  output : String
  outcome : Except ε α
  directory : Directory

/-- Runs a session in a directory. A write that fails leaves the directory as it is. -/
def runIn (directory : Directory) : Session ε α → Ran ε α
  | done result => ⟨[], "", .ok result, directory⟩
  | fail error => ⟨[], "", .error error, directory⟩
  | report event rest =>
    let ran := rest.runIn directory
    { ran with events := event :: ran.events }
  | print text rest =>
    let ran := rest.runIn directory
    { ran with output := text ++ ran.output }
  | place rest => (rest directory.place).runIn directory
  | read path rest => (rest (directory.read path)).runIn directory
  | write path content rest =>
    match directory.write path content.toUTF8 with
    | .ok after => (rest (.ok ())).runIn after
    | .error fault => (rest (.error fault)).runIn directory

/-! ## Equations -/

theorem bind_eq (first : Session ε α) (next : α → Session ε β) :
    first >>= next = first.bind next := rfl

theorem pure_eq (result : α) : (pure result : Session ε α) = done result := rfl

@[simp] theorem runIn_done (directory : Directory) (result : α) :
    (done result : Session ε α).runIn directory = ⟨[], "", .ok result, directory⟩ := rfl

@[simp] theorem runIn_fail (directory : Directory) (error : ε) :
    (fail error : Session ε α).runIn directory = ⟨[], "", .error error, directory⟩ := rfl

/-- A session that goes on runs in the directory that the first part leaves. -/
theorem runIn_bind (first : Session ε α) (next : α → Session ε β) (directory : Directory) :
    (first.bind next).runIn directory =
      match (first.runIn directory).outcome with
      | .ok result =>
        ⟨(first.runIn directory).events ++
            ((next result).runIn (first.runIn directory).directory).events,
          (first.runIn directory).output ++
            ((next result).runIn (first.runIn directory).directory).output,
          ((next result).runIn (first.runIn directory).directory).outcome,
          ((next result).runIn (first.runIn directory).directory).directory⟩
      | .error error => ⟨(first.runIn directory).events, (first.runIn directory).output,
          .error error, (first.runIn directory).directory⟩ := by
  induction first generalizing directory with
  | done result => simp [bind]
  | fail error => simp [bind]
  | report event rest ih =>
    simp only [bind, runIn, ih]
    split <;> simp
  | print text rest ih =>
    simp only [bind, runIn, ih]
    split <;> simp [String.append_assoc]
  | place rest ih => simp only [bind, runIn, ih]
  | read path rest ih => simp only [bind, runIn, ih]
  | write path content rest ih =>
    simp only [bind, runIn]
    split <;> exact ih _ _

/-- Putting failures differently changes nothing else. -/
theorem runIn_mapError (session : Session ε α) (f : ε → ε') (directory : Directory) :
    (session.mapError f).runIn directory =
      ⟨(session.runIn directory).events, (session.runIn directory).output,
        (session.runIn directory).outcome.mapError f, (session.runIn directory).directory⟩ := by
  induction session generalizing directory with
  | done result => rfl
  | fail error => rfl
  | report event rest ih => simp only [mapError, runIn, ih]
  | print text rest ih => simp only [mapError, runIn, ih]
  | place rest ih => simp only [mapError, runIn, ih]
  | read path rest ih => simp only [mapError, runIn, ih]
  | write path content rest ih =>
    simp only [mapError, runIn]
    split <;> simp only [ih]

/-- Reporting and ending touches no file and prints nothing. -/
theorem runIn_ofTraced (traced : Traced ε α) (directory : Directory) :
    (ofTraced traced).runIn directory = ⟨traced.events, "", traced.outcome, directory⟩ := by
  obtain ⟨events, outcome⟩ := traced
  simp only [ofTraced]
  induction events with
  | nil => cases outcome <;> rfl
  | cons event rest ih => simp only [reporting, runIn, ih]

/-! ## Printing as a result -/

/-- The same session with what it prints as its result, behind what has been printed before. -/
def capture (printed : String) : Session ε Unit → Session ε String
  | done () => done printed
  | fail error => fail error
  | report event rest => report event (rest.capture printed)
  | print text rest => rest.capture (printed ++ text)
  | place rest => place fun path => (rest path).capture printed
  | read path rest => read path fun answer => (rest answer).capture printed
  | write path content rest => write path content fun answer => (rest answer).capture printed

/-- Capturing changes nothing but where the output goes. -/
theorem runIn_capture (session : Session ε Unit) (printed : String) (directory : Directory) :
    (session.capture printed).runIn directory =
      let ran := session.runIn directory
      ⟨ran.events, "", ran.outcome.map fun _ => printed ++ ran.output, ran.directory⟩ := by
  induction session generalizing printed directory with
  | done result => simp only [capture, runIn_done, Except.map, String.append_empty]
  | fail error => rfl
  | report event rest ih => simp only [capture, runIn, ih]
  | print text rest ih => simp only [capture, runIn, ih, String.append_assoc]
  | place rest ih => simp only [capture, runIn, ih]
  | read path rest ih => simp only [capture, runIn, ih]
  | write path content rest ih =>
    simp only [capture, runIn]
    split <;> simp only [ih]

end Session

end Shorthand
