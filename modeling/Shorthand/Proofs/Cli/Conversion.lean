import Shorthand.Cli.Conversion
import Shorthand.Proofs.Cli.Arguments
import Shorthand.Proofs.Source.Output

/-!
# A conversion is the library composed

The program converts on three ways: JSON is made and put out by itself, HTML for a file is left to
the source, and HTML without a file is printed. They come to the same. Arguments ask for the command
that they spell out (`Asks`), and in every directory a command takes one of the courses listed in
`Course`. These are told by the parts of the library alone: the configuration, the text of the
source, the document that it is parsed to, and whether the output can be written. Both together say
what the program does with its arguments (`run_composes`).
-/

namespace Shorthand.Cli

open Session (Ends ReadOnly)

/-! ## What the library gives -/

namespace Command

/-- The configuration of a command: its file over the defaults. A strict command rejects whatever
the configuration says, and keeps the rest of it. -/
def configurationIn (command : Command) (directory : Directory) :
    Except ConfigError Configuration :=
  ((Configuration.load command.config.toList).runIn directory).outcome.map fun configuration =>
    if command.strict then
      ⟨⟨.reject, .reject, configuration.parsing.lineEndings⟩, configuration.rendering⟩
    else configuration

/-- The text of the source of a command. -/
def textIn (command : Command) (directory : Directory) : Except FileFault String :=
  (directory.read command.path).bind decodeText

end Command

/-- A document in a format. How documents are laid out as HTML does not matter for JSON. -/
def Format.content (format : Format) (options : RenderOptions) (document : Document) : String :=
  match format with
  | .html => document.html options
  | .json => document.json.pretty

/-! ## Loading -/

theorem readOnly_findFile {α : Type} (path : String)
    {next : String → ByteArray → Session ConfigError α}
    (h : ∀ found content, ReadOnly (next found content)) :
    ReadOnly (Config.findFile path next) := by
  refine .read path ?_
  intro answer
  cases answer with
  | ok content => exact h path content
  | error fault =>
    dsimp only
    by_cases absent : fault.isAbsence = true
    · rw [if_pos absent]
      cases Config.withExtension? path with
      | none => exact .fail _
      | some longer =>
        refine .read longer ?_
        intro answer
        cases answer with
        | ok content => exact h longer content
        | error fault => exact .fail _
    · rw [if_neg absent]
      exact .fail _

theorem readOnly_loadLayers (settings : Config.Entries) (paths : List String) :
    ReadOnly (Config.loadLayers settings paths) := by
  induction paths generalizing settings with
  | nil => exact .done settings
  | cons path rest ih =>
    refine readOnly_findFile path ?_
    intro found content
    cases Config.readTable content with
    | ok file => exact .place fun place => ih _
    | error error => exact .fail error

theorem readOnly_load (paths : List String) : ReadOnly (Configuration.load paths) :=
  (readOnly_loadLayers _ paths).bind fun _ => .ofTraced _

variable {command : Command} {directory after : Directory}

theorem ends_configuration (command : Command) (directory : Directory) :
    command.configuration.Ends directory ""
      ((command.configurationIn directory).mapError .configuration) directory := by
  have loading := ((readOnly_load command.config.toList).ends directory).mapError
    Failure.configuration
  rw [Command.configurationIn]
  cases loaded : ((Configuration.load command.config.toList).runIn directory).outcome with
  | error error =>
    rw [loaded] at loading
    exact loading.bind_error _
  | ok configuration =>
    rw [loaded] at loading
    exact loading.bind (Session.ends_done _ directory)

theorem ends_source_of_ok {configuration : Configuration} {text : String}
    (configured : command.configurationIn directory = .ok configuration)
    (read : command.textIn directory = .ok text) :
    command.source.Ends directory ""
      (.ok ⟨text, configuration.parsing, configuration.rendering⟩) directory := by
  have first := ends_configuration command directory
  rw [configured] at first
  have loaded := (Source.ends_load_of_ok read).mapError Failure.load
  exact first.bind (loaded.bind (Session.ends_done _ directory))

theorem ends_source_of_bad_configuration {error : ConfigError}
    (failed : command.configurationIn directory = .error error) :
    command.source.Ends directory "" (.error (.configuration error)) directory := by
  have first := ends_configuration command directory
  rw [failed] at first
  exact first.bind_error _

theorem ends_source_of_unreadable {configuration : Configuration} {fault : FileFault}
    (configured : command.configurationIn directory = .ok configuration)
    (unreadable : command.textIn directory = .error fault) :
    command.source.Ends directory "" (.error (.load (.cannotRead command.path fault)))
      directory := by
  have first := ends_configuration command directory
  rw [configured] at first
  have loaded := (Source.ends_load_of_error unreadable).mapError Failure.load
  exact first.bind (loaded.bind_error _)

/-! ## Putting out -/

section Put

variable {source : Source} {document : Document} {path : String}

theorem ends_put_of_error {error : ParseError} (failed : source.document.outcome = .error error)
    (format : Format) (output : Option String) (directory : Directory) :
    (format.put source output).Ends directory "" (.error (.parse error)) directory := by
  cases format with
  | json => exact (Session.ends_ofTraced failed LoadError.parse directory).bind_error _
  | html =>
    have ended := Session.ends_ofTraced (Source.outcome_html_of_error failed) LoadError.parse
      directory
    cases output with
    | none => exact ended.bind_error _
    | some path => exact ended.bind_error _

theorem ends_put_none (parsed : source.document.outcome = .ok document) (format : Format)
    (directory : Directory) :
    (format.put source none).Ends directory (format.content source.renderOptions document)
      (.ok ()) directory := by
  cases format with
  | json =>
    exact (Session.ends_ofTraced parsed LoadError.parse directory).bind
      (Session.ends_print _ directory)
  | html =>
    exact (Session.ends_ofTraced (Source.outcome_html_of_ok parsed) LoadError.parse directory).bind
      (Session.ends_print _ directory)

theorem ends_put_some_of_written (parsed : source.document.outcome = .ok document)
    {format : Format}
    (written : directory.write path (format.content source.renderOptions document).toUTF8 =
      .ok after) :
    (format.put source (some path)).Ends directory "" (.ok ()) after := by
  cases format with
  | json =>
    exact (Session.ends_ofTraced parsed LoadError.parse directory).bind
      (Source.ends_writeFile_of_ok written)
  | html =>
    exact (Session.ends_ofTraced (Source.outcome_html_of_ok parsed) LoadError.parse directory).bind
      ((Source.ends_writeFile_of_ok written).bind ⟨rfl, rfl, rfl⟩)

theorem ends_put_some_of_refused (parsed : source.document.outcome = .ok document)
    {format : Format} {fault : FileFault}
    (refused : directory.write path (format.content source.renderOptions document).toUTF8 =
      .error fault) :
    (format.put source (some path)).Ends directory "" (.error (.cannotWrite path fault))
      directory := by
  cases format with
  | json =>
    exact (Session.ends_ofTraced parsed LoadError.parse directory).bind
      (Source.ends_writeFile_of_error refused)
  | html =>
    exact (Session.ends_ofTraced (Source.outcome_html_of_ok parsed) LoadError.parse directory).bind
      ((Source.ends_writeFile_of_error refused).bind_error _)

end Put

/-! ## The courses of a command -/

namespace Command

/-- The content that the parts of the library give for a command. -/
inductive Produces (command : Command) (directory : Directory) : String → Prop
  | intro {configuration : Configuration} {text : String} {document : Document}
      (configured : command.configurationIn directory = .ok configuration)
      (read : command.textIn directory = .ok text)
      (parsed : (parse configuration.parsing text).outcome = .ok document) :
    Produces command directory (command.format.content configuration.rendering document)

/-- The first step of a command that fails: every step needs what those before it have given. -/
inductive FirstFailure (command : Command) (directory : Directory) : Failure → Prop
  | configuration {error : ConfigError}
      (failed : command.configurationIn directory = .error error) :
    FirstFailure command directory (.configuration error)
  | reading {configuration : Configuration} {fault : FileFault}
      (configured : command.configurationIn directory = .ok configuration)
      (failed : command.textIn directory = .error fault) :
    FirstFailure command directory (.load (.cannotRead command.path fault))
  | parsing {configuration : Configuration} {text : String} {error : ParseError}
      (configured : command.configurationIn directory = .ok configuration)
      (read : command.textIn directory = .ok text)
      (failed : (parse configuration.parsing text).outcome = .error error) :
    FirstFailure command directory (.load (.parse error))
  | writing {content path : String} {fault : FileFault}
      (produced : command.Produces directory content) (named : command.output = some path)
      (failed : directory.write path content.toUTF8 = .error fault) :
    FirstFailure command directory (.load (.cannotWrite path fault))

/-- The courses of a command in a directory, with what they print, what they end in and what they
leave. -/
inductive Course (command : Command) (directory : Directory) :
    String → Except Failure Unit → Directory → Prop
  | failed {failure : Failure} (first : command.FirstFailure directory failure) :
    Course command directory "" (.error failure) directory
  | shown {content : String} (produced : command.Produces directory content)
      (unnamed : command.output = none) :
    Course command directory content (.ok ()) directory
  | written {content path : String} {after : Directory}
      (produced : command.Produces directory content) (named : command.output = some path)
      (written : directory.write path content.toUTF8 = .ok after) :
    Course command directory "" (.ok ()) after

/-- Whether running a session in a directory is a course of a command. -/
def Follows (command : Command) (directory : Directory) (session : Session Failure Unit) : Prop :=
  command.Course directory (session.runIn directory).output (session.runIn directory).outcome
    (session.runIn directory).directory

theorem Produces.of_map {configuration : Configuration} {text content : String}
    (configured : command.configurationIn directory = .ok configuration)
    (read : command.textIn directory = .ok text)
    (converted : (parse configuration.parsing text).outcome.map
      (command.format.content configuration.rendering) = .ok content) :
    command.Produces directory content := by
  cases parsed : (parse configuration.parsing text).outcome with
  | error error =>
    rw [parsed] at converted
    cases converted
  | ok document =>
    rw [parsed] at converted
    cases converted
    exact .intro configured read parsed

theorem Produces.unique {content content' : String} (h : command.Produces directory content)
    (h' : command.Produces directory content') : content = content' := by
  obtain ⟨configured, read, parsed⟩ := h
  obtain ⟨configured', read', parsed'⟩ := h'
  cases configured.symm.trans configured'
  cases read.symm.trans read'
  cases parsed.symm.trans parsed'
  rfl

theorem Course.follows {output : String} {outcome : Except Failure Unit}
    {session : Session Failure Unit} (course : command.Course directory output outcome after)
    (ended : session.Ends directory output outcome after) : command.Follows directory session := by
  obtain ⟨rfl, rfl, rfl⟩ := ended
  exact course

/-- The courses of a command whose source is there, by how the source is parsed and whether the
content is written. -/
theorem follows_of_source {configuration : Configuration} {text : String}
    (configured : command.configurationIn directory = .ok configuration)
    (read : command.textIn directory = .ok text) : command.Follows directory command.run := by
  have source := ends_source_of_ok configured read
  let loaded : Source := ⟨text, configuration.parsing, configuration.rendering⟩
  cases parsed : loaded.document.outcome with
  | error error =>
    have put := ends_put_of_error parsed command.format command.output directory
    exact (Course.failed (.parsing configured read parsed)).follows
      (source.bind (put.mapError Failure.load))
  | ok document =>
    have produced := Produces.intro configured read parsed
    cases named : command.output with
    | none =>
      have put := ends_put_none parsed command.format directory
      rw [← named] at put
      exact (Course.shown produced named).follows (source.bind (put.mapError Failure.load))
    | some path =>
      cases wrote : directory.write path
          (command.format.content configuration.rendering document).toUTF8 with
      | error fault =>
        have put := ends_put_some_of_refused parsed wrote
        rw [← named] at put
        exact (Course.failed (.writing produced named wrote)).follows
          (source.bind (put.mapError Failure.load))
      | ok after =>
        have put := ends_put_some_of_written parsed wrote
        rw [← named] at put
        exact (Course.written produced named wrote).follows
          (source.bind (put.mapError Failure.load))

/-- **A command is the library composed**: it takes one of the courses, whatever the format and the
output. -/
theorem follows_run (command : Command) (directory : Directory) :
    command.Follows directory command.run := by
  cases configured : command.configurationIn directory with
  | error error =>
    exact (Course.failed (.configuration configured)).follows
      ((ends_source_of_bad_configuration configured).bind_error _)
  | ok configuration =>
    cases read : command.textIn directory with
    | error fault =>
      exact (Course.failed (.reading configured read)).follows
        ((ends_source_of_unreadable configured read).bind_error _)
    | ok text => exact follows_of_source configured read

/-! ## Told from outside -/

variable {output : String} {outcome : Except Failure Unit}

theorem FirstFailure.exitStatus_eq {failure : Failure}
    (first : command.FirstFailure directory failure) : failure.exitStatus = 1 := by
  cases first <;> rfl

/-- A command that nothing stands in the way of has no first failure. -/
theorem Produces.not_firstFailure {content : String}
    (produced : command.Produces directory content)
    (writable : ∀ path, command.output = some path → directory.Writable path)
    (failure : Failure) : ¬ command.FirstFailure directory failure := by
  intro first
  cases first with
  | configuration failed =>
    obtain ⟨configured, -, -⟩ := produced
    cases failed.symm.trans configured
  | reading _ failed =>
    obtain ⟨-, read, -⟩ := produced
    cases failed.symm.trans read
  | parsing configured' read' failed =>
    obtain ⟨configured, read, parsed⟩ := produced
    cases configured'.symm.trans configured
    cases read'.symm.trans read
    cases failed.symm.trans parsed
  | writing _ named failed =>
    obtain ⟨after, written⟩ := writable _ named (String.toUTF8 _)
    cases failed.symm.trans written

theorem Course.exitStatus_eq_zero_iff (course : command.Course directory output outcome after) :
    exitStatus outcome = 0 ↔
      ∃ content, command.Produces directory content ∧
        ∀ path, command.output = some path → directory.Writable path := by
  cases course with
  | failed first =>
    constructor
    · intro zero
      cases zero.symm.trans first.exitStatus_eq
    · rintro ⟨content, produced, writable⟩
      exact absurd first (produced.not_firstFailure writable _)
  | shown produced unnamed =>
    refine ⟨fun _ => ⟨_, produced, ?_⟩, fun _ => rfl⟩
    intro path named
    cases unnamed.symm.trans named
  | written produced named wrote =>
    refine ⟨fun _ => ⟨_, produced, ?_⟩, fun _ => rfl⟩
    intro path' named'
    cases named.symm.trans named'
    exact Directory.writable_of_write wrote

theorem Course.content_eq (course : command.Course directory output outcome after)
    {content : String} (succeeded : exitStatus outcome = 0)
    (produced : command.Produces directory content) :
    match command.output with
    | none => output = content ∧ after = directory
    | some path => output = "" ∧ after.contentAt? path = some content.toUTF8 := by
  cases course with
  | failed first => cases succeeded.symm.trans first.exitStatus_eq
  | shown shown unnamed =>
    rw [unnamed]
    exact ⟨shown.unique produced, rfl⟩
  | written made named wrote =>
    rw [named]
    rw [made.unique produced] at wrote
    exact ⟨rfl, Directory.contentAt?_of_write wrote⟩

theorem Course.firstFailure (course : command.Course directory output outcome after)
    (failed : exitStatus outcome ≠ 0) :
    exitStatus outcome = 1 ∧
      ∃ failure, outcome = .error failure ∧ command.FirstFailure directory failure := by
  cases course with
  | failed first => exact ⟨first.exitStatus_eq, _, rfl, first⟩
  | shown => exact absurd rfl failed
  | written => exact absurd rfl failed

end Command

theorem program_of_asks {arguments : List String} (asks : Asks arguments command) :
    program arguments = command.run := by
  rw [program, request_eq_convert_iff.2 asks]

/-- **The command line is the library composed.** A conversion is made when the arguments ask for
one: they spell out the path, the options and the flags of a command, and of no other. The program
then ends with success exactly when the configuration is built, the source is read and parsed, and
the output can be written; the content that the library gives is then all that the program prints,
or the content of the output. Otherwise the first of these steps that fails is what the program
fails with. Asking for events, which can always be added, changes nothing of this. -/
theorem run_composes (arguments : List String) (directory : Directory) :
    let ran := (program arguments).runIn directory
    (∀ command, request arguments = .ok (.convert command) ↔ Asks arguments command) ∧
    ∀ command, Asks arguments command →
      (exitStatus ran.outcome = 0 ↔
        ∃ content, command.Produces directory content ∧
          ∀ path, command.output = some path → directory.Writable path) ∧
      (∀ content, exitStatus ran.outcome = 0 → command.Produces directory content →
        match command.output with
        | none => ran.output = content ∧ ran.directory = directory
        | some path => ran.output = "" ∧ ran.directory.contentAt? path = some content.toUTF8) ∧
      (exitStatus ran.outcome ≠ 0 →
        exitStatus ran.outcome = 1 ∧
          ∃ failure, ran.outcome = .error failure ∧ command.FirstFailure directory failure) ∧
      (command.verbose = false → Asks ("-v" :: arguments) { command with verbose := true }) ∧
      ∀ arguments' verbose, Asks arguments' { command with verbose } →
        let ran' := (program arguments').runIn directory
        exitStatus ran'.outcome = exitStatus ran.outcome ∧ ran'.output = ran.output ∧
          ran'.directory = ran.directory := by
  intro ran
  refine ⟨fun command => request_eq_convert_iff, fun command asks => ?_⟩
  have course : command.Course directory ran.output ran.outcome ran.directory := by
    have course := command.follows_run directory
    rwa [← program_of_asks asks] at course
  refine ⟨course.exitStatus_eq_zero_iff, fun content => course.content_eq, course.firstFailure,
    asks.verbose, ?_⟩
  intro arguments' verbose asks' ran'
  -- a command runs alike whether events are asked for or not
  have same : program arguments' = program arguments := by
    rw [program_of_asks asks', program_of_asks asks]
    rfl
  simp only [ran', same, ran, and_self]

/-- A page is converted onto itself, with the indent of a configuration that is found under its
longer name. It cannot be converted again, since it is no longer shorthand. A note from the same
directory, named from the root, is printed as JSON. -/
theorem run_composes_onto_source :
    let onto := ["--strict", "-opage", "-c", "c", "page"]
    let shown := ["-vfjson", "--config=../site/c.toml", "--", "/home/site/note"]
    let directory := Directory.fill { place := ["home", "site"] }
      [("page", "p#a Hi\n b".toUTF8), ("note", "p Hi\n?".toUTF8),
        ("c.toml", "[rendering]\nindent = '  '".toUTF8)]
    let note := "\x7b\n  \"roots\": [\n    \x7b\n      \"name\": \"p\",\n" ++
      "      \"attributes\": \x7b\x7d,\n      \"children\": [],\n" ++
      "      \"text\": \"Hi\"\n    \x7d\n  ]\n\x7d"
    let ran := (program onto).runIn directory
    let loud := (program ("-v" :: onto)).runIn directory
    let again := (program onto).runIn ran.directory
    let json := (program shown).runIn directory
    exitStatus ran.outcome = 0 ∧ ran.output = "" ∧
      ran.directory.contentAt? "page" = some "<p id=\"a\">Hi\n  <b></b>\n</p>".toUTF8 ∧
      exitStatus loud.outcome = 0 ∧ loud.directory = ran.directory ∧
      exitStatus again.outcome = 1 ∧
      again.outcome = .error (.load (.parse (.unrecognizedLine 1 "<p id=\"a\">Hi"))) ∧
      exitStatus json.outcome = 0 ∧ json.output = note ∧ json.directory = directory := by
  intro onto shown directory note ran loud again json
  let page : Command := ⟨"page", some "page", some "c", .html, true, false⟩
  let noted : Command := ⟨"/home/site/note", none, some "../site/c.toml", .json, false, true⟩
  obtain ⟨accepted, composes⟩ := run_composes onto directory
  obtain ⟨-, composes'⟩ := run_composes shown directory
  have asks : Asks onto page := (accepted page).1 (by decide +kernel)
  have asks' : Asks shown noted := by
    have short : SpellsOne "-vfjson" [.flag .verbose, .value .format "json"] none :=
      .short (List.cons_ne_nil 'v' ['f', 'j', 's', 'o', 'n'])
        (.flag rfl (.attached .format (List.cons_ne_nil 'j' ['s', 'o', 'n']) (by decide)))
    have long : SpellsOne "--config=../site/c.toml" [.value .config "../site/c.toml"] none :=
      .assigned .config "../site/c.toml"
    exact ⟨_, .one short (.one long (.paths ["/home/site/note"])), rfl, rfl, rfl, .inl rfl, rfl, rfl⟩
  obtain ⟨succeeds, gives, -, askable, loudly⟩ := composes page asks
  obtain ⟨succeeds', gives', -⟩ := composes' noted asks'
  have html : page.Produces directory "<p id=\"a\">Hi\n  <b></b>\n</p>" :=
    .of_map (show page.configurationIn directory = .ok ⟨.strict, ⟨"  "⟩⟩ by decide +kernel)
      (show page.textIn directory = .ok "p#a Hi\n b" by decide +kernel) (by decide +kernel)
  have text : noted.Produces directory note :=
    .of_map (show noted.configurationIn directory = .ok ⟨{}, ⟨"  "⟩⟩ by decide +kernel)
      (show noted.textIn directory = .ok "p Hi\n?" by decide +kernel) (by decide +kernel)
  have writable : directory.Writable "page" := by
    obtain ⟨after, written⟩ := Traced.exists_of_isOk
      (show (directory.write "page" .empty).isOk = true by decide +kernel)
    exact Directory.writable_of_write written
  have succeeded : exitStatus ran.outcome = 0 :=
    succeeds.2 ⟨_, html, fun path named => Option.some.inj named ▸ writable⟩
  have succeeded' : exitStatus json.outcome = 0 := succeeds'.2 ⟨_, text, nofun⟩
  obtain ⟨silent, kept⟩ := gives _ succeeded html
  obtain ⟨status, -, same⟩ := loudly _ true (askable rfl)
  obtain ⟨-, -, fails, -⟩ := (run_composes onto ran.directory).2 page asks
  have failed : again.outcome = .error (.load (.parse (.unrecognizedLine 1 "<p id=\"a\">Hi"))) := by
    decide +kernel
  have nonzero : exitStatus again.outcome ≠ 0 := by
    rw [failed]
    decide
  exact ⟨succeeded, silent, kept, status.trans succeeded, same, (fails nonzero).1, failed,
    succeeded', gives' _ succeeded' text⟩

end Shorthand.Cli
