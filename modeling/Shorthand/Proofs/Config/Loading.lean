import Shorthand.Proofs.Config.Layer

/-!
# Loading layers

What loading a list of configuration files comes to in a directory. Files are taken in order, and
the first that is missing or not well-formed ends the loading, whatever stands behind it
(`loadIn_of_error`). When all of them give keys texts that the keys accept, a configuration is
built, and each key has in it what the last file says that says anything about it
(`exists_loadIn_of_layers`). The rest follows from that: a file leaves alone what it does not set,
and neighbours that set no common key can change places.
-/

namespace Shorthand.Config

variable {directory : Directory} {path : String}

/-! ## One file -/

/-- The content of a configuration file, with the path under which it is found. -/
def contentIn (directory : Directory) (path : String) : Except ConfigError (String × ByteArray) :=
  ((findFile path fun found content => .done (found, content)).runIn directory).outcome

/-- The table that a configuration file describes, or why there is none. -/
def tableIn (directory : Directory) (path : String) : Except ConfigError Toml.Entries :=
  (contentIn directory path).bind fun file => readTable file.2

/-- Whether a configuration file is there, is well-formed, and fits. -/
def IsLayer (directory : Directory) (path : String) : Prop :=
  ∃ file, tableIn directory path = .ok file ∧ Fits file

instance (directory : Directory) (path : String) : Decidable (IsLayer directory path) :=
  match read : tableIn directory path with
  | .ok file => decidable_of_iff (Fits file) (by simp [IsLayer, read])
  | .error error => isFalse (by simp [IsLayer, read])

/-- The text that a configuration file gives a key. -/
def Key.givenIn? (key : Key) (directory : Directory) (path : String) : Option String :=
  (tableIn directory path).toOption.bind key.givenBy?

theorem givenIn?_of_ok {file : Toml.Entries} (read : tableIn directory path = .ok file)
    (key : Key) : key.givenIn? directory path = key.givenBy? file := by
  rw [Key.givenIn?, read]
  rfl

/-- Where a file is found does not depend on what is done with it. -/
theorem runIn_findFile {α : Type} (path : String)
    (next : String → ByteArray → Session ConfigError α) (directory : Directory) :
    (findFile path next).runIn directory =
      match contentIn directory path with
      | .ok file => (next file.1 file.2).runIn directory
      | .error error => ⟨[], "", .error error, directory⟩ := by
  simp only [contentIn, findFile, Session.runIn]
  cases directory.read path with
  | ok content => rfl
  | error fault =>
    -- the longer name is tried only when nothing is there
    by_cases absent : fault.isAbsence = true
    · simp only [if_pos absent]
      cases withExtension? path with
      | none => rfl
      | some longer =>
        simp only [Session.runIn]
        cases directory.read longer <;> rfl
    · simp only [if_neg absent]
      rfl

/-! ## Files one after the other -/

variable {settings : Entries} {paths before after : List String}

/-- One file more: its table goes over the settings before the next file, and without a table there
is no next file. -/
theorem exists_outcome_loadLayers_cons (directory : Directory) (settings : Entries) (path : String)
    (rest : List String) :
    ∃ origin, ((loadLayers settings (path :: rest)).runIn directory).outcome =
      (tableIn directory path).bind fun file =>
        ((loadLayers (layerOver origin file settings) rest).runIn directory).outcome := by
  rw [loadLayers, runIn_findFile, tableIn]
  cases contentIn directory path with
  -- nothing is laid over anything, so any origin will do
  | error error => exact ⟨path, rfl⟩
  | ok content =>
    refine ⟨pathFrom directory.place content.1, ?_⟩
    simp only [Except.bind]
    cases readTable content.2 <;> rfl

/-- The settings that layers leave hold what the last of them gives that gives anything. -/
theorem exists_outcome_loadLayers {texts : Key → String} (holds : Holds settings texts)
    (layers : ∀ path ∈ paths, IsLayer directory path) :
    ∃ left, ((loadLayers settings paths).runIn directory).outcome = .ok left ∧
      Holds left fun key => (lastSome? (key.givenIn? directory) paths).getD (texts key) := by
  induction paths generalizing settings texts with
  | nil => exact ⟨settings, rfl, holds⟩
  | cons path rest ih =>
    obtain ⟨file, read, fits⟩ := layers path List.mem_cons_self
    obtain ⟨origin, goes_on⟩ := exists_outcome_loadLayers_cons directory settings path rest
    rw [read] at goes_on
    -- the rest finds the texts that the first file has left
    obtain ⟨left, loaded, left_holds⟩ := ih (holds.layerOver fits origin)
      fun other member => layers other (List.mem_cons_of_mem path member)
    refine ⟨left, goes_on.trans loaded, ?_⟩
    simpa only [lastSome?_cons, Option.getD_or, givenIn?_of_ok read] using left_holds

/-- A file without a table ends the loading behind files that have one. -/
theorem outcome_loadLayers_of_error {error : ConfigError}
    (readable : ∀ earlier ∈ before, ∃ file, tableIn directory earlier = .ok file)
    (failed : tableIn directory path = .error error) (settings : Entries) :
    ((loadLayers settings (before ++ path :: after)).runIn directory).outcome = .error error := by
  induction before generalizing settings with
  | nil =>
    obtain ⟨origin, ends⟩ := exists_outcome_loadLayers_cons directory settings path after
    rw [failed] at ends
    exact ends
  | cons first rest ih =>
    obtain ⟨file, read⟩ := readable first List.mem_cons_self
    obtain ⟨origin, goes_on⟩ :=
      exists_outcome_loadLayers_cons directory settings first (rest ++ path :: after)
    rw [read] at goes_on
    exact goes_on.trans
      (ih (fun other member => readable other (List.mem_cons_of_mem first member)) _)

/-! ## The configuration -/

/-- The configuration that files give in a directory. -/
def loadIn (directory : Directory) (paths : List String) : Except ConfigError Configuration :=
  ((Configuration.load paths).runIn directory).outcome

theorem loadIn_eq (directory : Directory) (paths : List String) :
    loadIn directory paths =
      ((loadLayers defaultSettings paths).runIn directory).outcome.bind configurationOf := by
  rw [loadIn, Configuration.load, Session.bind_eq, Session.runIn_bind]
  cases ((loadLayers defaultSettings paths).runIn directory).outcome with
  | error error => rfl
  | ok settings => simp only [Session.runIn_ofTraced, Except.bind]

/-- The text of a key behind layers: what the last of them gives that gives it anything, or its
text when there are no files. -/
def Key.textBehind (key : Key) (directory : Directory) (paths : List String) : String :=
  (lastSome? (key.givenIn? directory) paths).getD (Key.textIn {} key)

theorem accepts_textBehind (layers : ∀ path ∈ paths, IsLayer directory path) (key : Key) :
    key.Accepts (key.textBehind directory paths) := by
  rw [Key.textBehind]
  cases given : lastSome? (key.givenIn? directory) paths with
  | none =>
    -- the words of the built-in settings are among the words to choose from
    cases key <;> decide
  | some text =>
    obtain ⟨path, member, by_file⟩ := exists_of_lastSome? given
    obtain ⟨file, read, fits⟩ := layers path member
    rw [givenIn?_of_ok read] at by_file
    exact accepts_of_givenBy? fits by_file

/-- **Layers.** They give a configuration, and every key has its text behind them. -/
theorem exists_loadIn_of_layers (layers : ∀ path ∈ paths, IsLayer directory path) :
    ∃ configuration, loadIn directory paths = .ok configuration ∧
      ∀ key, Key.textIn configuration key = key.meaning (key.textBehind directory paths) := by
  obtain ⟨settings, loaded, holds⟩ := exists_outcome_loadLayers holds_defaultSettings layers
  obtain ⟨configuration, read, texts⟩ := configurationOf_of_holds holds (accepts_textBehind layers)
  refine ⟨configuration, ?_, texts⟩
  rw [loadIn_eq, loaded]
  exact read

/-- **The first file without a table** says why there is no configuration. -/
theorem loadIn_of_error {error : ConfigError}
    (readable : ∀ earlier ∈ before, ∃ file, tableIn directory earlier = .ok file)
    (failed : tableIn directory path = .error error) (after : List String) :
    loadIn directory (before ++ path :: after) = .error error := by
  rw [loadIn_eq, outcome_loadLayers_of_error readable failed]
  rfl

/-- A file that gives a key nothing might as well not be there. -/
theorem textBehind_of_silent {key : Key} (silent : key.givenIn? directory path = none)
    (before after : List String) :
    key.textBehind directory (before ++ path :: after) =
      key.textBehind directory (before ++ after) := by
  simp only [Key.textBehind, lastSome?_append, lastSome?_cons, silent, Option.or_none]

/-- Of two neighbours, one of which gives a key nothing, it does not matter which comes first. -/
theorem textBehind_exchange {key : Key} {first second : String}
    (silent : key.givenIn? directory first = none ∨ key.givenIn? directory second = none)
    (before after : List String) :
    key.textBehind directory (before ++ first :: second :: after) =
      key.textBehind directory (before ++ second :: first :: after) := by
  rcases silent with silent | silent
  all_goals
    simp only [Key.textBehind, lastSome?_append, lastSome?_cons, silent, Option.or_none]

/-- Layers that leave every key the same text give the same configuration. -/
theorem loadIn_congr {others : List String} (layers : ∀ path ∈ paths, IsLayer directory path)
    (layers' : ∀ path ∈ others, IsLayer directory path)
    (same : ∀ key : Key, key.textBehind directory paths = key.textBehind directory others) :
    loadIn directory paths = loadIn directory others := by
  obtain ⟨configuration, loaded, texts⟩ := exists_loadIn_of_layers layers
  obtain ⟨other, loaded', texts'⟩ := exists_loadIn_of_layers layers'
  have same_configuration : configuration = other := by
    refine Key.configuration_ext fun key => ?_
    rw [texts, texts', same]
  rw [loaded, loaded', same_configuration]

/-- **Layers override key by key.** In every directory: files that are layers give a configuration
in which each key has what the last of them gives that gives it anything, or its default; a layer
changes no key that it gives nothing; neighbours that give no common key can change places. And
when files are not there or not well-formed, the first of them says what has failed, whatever
stands behind it. -/
theorem layers_override_by_key (directory : Directory) :
    (∀ paths, (∀ path ∈ paths, IsLayer directory path) →
      ∃ configuration, loadIn directory paths = .ok configuration ∧
        ∀ key : Key, Key.textIn configuration key =
          key.meaning ((lastSome? (key.givenIn? directory) paths).getD (Key.textIn {} key))) ∧
    (∀ before path after, (∀ other ∈ before ++ path :: after, IsLayer directory other) →
      ∃ configuration without, loadIn directory (before ++ path :: after) = .ok configuration ∧
        loadIn directory (before ++ after) = .ok without ∧
        ∀ key : Key, key.givenIn? directory path = none →
          Key.textIn configuration key = Key.textIn without key) ∧
    (∀ before first second after,
      (∀ path ∈ before ++ first :: second :: after, IsLayer directory path) →
      (∀ key : Key, key.givenIn? directory first = none ∨ key.givenIn? directory second = none) →
      loadIn directory (before ++ first :: second :: after) =
        loadIn directory (before ++ second :: first :: after)) ∧
    (∀ before path after error,
      (∀ earlier ∈ before, ∃ file, tableIn directory earlier = .ok file) →
      tableIn directory path = .error error →
      loadIn directory (before ++ path :: after) = .error error) := by
  refine ⟨fun paths layers => exists_loadIn_of_layers layers, ?_, ?_, ?_⟩
  · intro before path after layers
    obtain ⟨configuration, loaded, texts⟩ := exists_loadIn_of_layers layers
    have fewer : ∀ other ∈ before ++ after, IsLayer directory other := by
      intro other member
      refine layers other ?_
      rcases List.mem_append.1 member with earlier | later
      · exact List.mem_append_left _ earlier
      · exact List.mem_append_right _ (List.mem_cons_of_mem path later)
    obtain ⟨without, loaded', texts'⟩ := exists_loadIn_of_layers fewer
    refine ⟨configuration, without, loaded, loaded', fun key silent => ?_⟩
    rw [texts, texts', textBehind_of_silent silent]
  · intro before first second after layers disjoint
    have exchanged : ∀ path ∈ before ++ second :: first :: after, IsLayer directory path := by
      intro path member
      exact layers path (((List.Perm.swap first second after).append_left before).mem_iff.1 member)
    exact loadIn_congr layers exchanged fun key => textBehind_exchange (disjoint key) before after
  · intro before path after error readable failed
    exact loadIn_of_error readable failed after

/-- Three files split the keys among them, and both of the first two set the indent. The second is
found under its longer name; it writes a section in another way, a word in capitals and a title that
no key has to do with. -/
theorem layers_override_by_key_split :
    let directory := Directory.ofFiles
      [("first.toml", "[parsing]\ndepth = 'reject'\n[rendering]\nindent = '    '\n".toUTF8),
        ("second.toml", "title = 1\nrendering.indent = '  '\n".toUTF8 ++
          "[parsing]\nunrecognized-lines = 'REJECT'\n".toUTF8),
        ("third.toml", "[parsing]\nline-endings = 'crlf'\n".toUTF8), ("bad.toml", "depth =".toUTF8)]
    loadIn directory ["first.toml", "second", "third.toml"] =
        .ok ⟨⟨.reject, .reject, .crlf⟩, ⟨"  "⟩⟩ ∧
      (∃ configuration without, loadIn directory ["first.toml", "second"] = .ok configuration ∧
        loadIn directory ["first.toml"] = .ok without ∧
        configuration.parsing.depth.word = without.parsing.depth.word) ∧
      loadIn directory ["first.toml", "second", "third.toml"] =
        loadIn directory ["first.toml", "third.toml", "second"] ∧
      loadIn directory ["first.toml", "bad.toml", "absent"] = .error .malformed ∧
      loadIn directory ["first.toml", "absent", "bad.toml"] = .error (.fileMissing "absent") := by
  intro directory
  obtain ⟨layered, silent, exchanged, stopped⟩ := layers_override_by_key directory
  have layers : ∀ path ∈ ["first.toml", "second", "third.toml"], IsLayer directory path := by
    decide +kernel
  have readable : ∀ earlier ∈ ["first.toml"], ∃ file, tableIn directory earlier = .ok file := by
    intro earlier member
    obtain ⟨file, read, -⟩ := layers earlier (List.mem_append_left ["second", "third.toml"] member)
    exact ⟨file, read⟩
  have malformed : tableIn directory "bad.toml" = .error .malformed :=
    Traced.error?_eq_some.1
      (show Traced.error? ⟨[], tableIn directory "bad.toml"⟩ = some .malformed by decide +kernel)
  have missing : tableIn directory "absent" = .error (.fileMissing "absent") := rfl
  refine ⟨?_, ?_, ?_, ?_, ?_⟩
  · obtain ⟨configuration, loaded, texts⟩ := layered _ layers
    have expected : configuration = ⟨⟨.reject, .reject, .crlf⟩, ⟨"  "⟩⟩ := by
      refine Key.configuration_ext fun key => (texts key).trans ?_
      revert key
      decide +kernel
    rw [loaded, expected]
  · obtain ⟨configuration, without, loaded, loaded', same⟩ :=
      silent ["first.toml"] "second" [] fun other member =>
        layers other (List.mem_append_left ["third.toml"] member)
    exact ⟨configuration, without, loaded, loaded', same .depth (by decide +kernel)⟩
  · exact exchanged ["first.toml"] "second" "third.toml" [] layers (by decide +kernel)
  · exact stopped ["first.toml"] "bad.toml" ["absent"] _ readable malformed
  · exact stopped ["first.toml"] "absent" ["bad.toml"] _ readable missing

end Shorthand.Config
