import Shorthand.Proofs.Config.Key

/-!
# Files over settings

What a file changes in settings that hold a text for every key. A file that gives keys nothing but
texts that they accept leaves such settings behind (`Holds.layerOver`): a key has the text that the
file gives it, and the text from before when the file gives it none. One entry of the file touches
one section at most, and one entry of a section one key, so both steps come down to what `put` does
under other names; the runs over all entries are folds of these steps.
-/

namespace Shorthand.Config

/-! ## The last one that counts -/

/-- What the last item gives that gives anything. -/
def lastSome? {α β : Type} (give : α → Option β) (items : List α) : Option β :=
  items.reverse.findSome? give

section

variable {α β : Type} {give : α → Option β} {items : List α}

theorem lastSome?_cons (item : α) (rest : List α) :
    lastSome? give (item :: rest) = (lastSome? give rest).or (give item) := by
  simp [lastSome?, List.findSome?_append]

theorem lastSome?_append (first rest : List α) :
    lastSome? give (first ++ rest) = (lastSome? give rest).or (lastSome? give first) := by
  simp [lastSome?, List.findSome?_append]

theorem exists_of_lastSome? {result : β} (h : lastSome? give items = some result) :
    ∃ item ∈ items, give item = some result := by
  obtain ⟨item, member, given⟩ := List.exists_of_findSome?_eq_some h
  exact ⟨item, List.mem_reverse.1 member, given⟩

end

/-! ## What a file gives -/

namespace Key

/-- The text that an entry of a section gives a key. -/
def givenByEntry? (key : Key) (entry : String × Toml.Value) : Option String :=
  match entry.2 with
  | .text text => if entry.1 = key.name then some text else none
  | _ => none

/-- The text that an entry at the top of a file gives a key, if it is the section of the key. -/
def givenBySection? (key : Key) (entry : String × Toml.Value) : Option String :=
  match entry.2 with
  | .table _ entries => if entry.1 = key.home then lastSome? key.givenByEntry? entries else none
  | _ => none

/-- The text that a file gives a key. -/
def givenBy? (key : Key) (file : Toml.Entries) : Option String :=
  lastSome? key.givenBySection? file

/-- Whether a value can be given for a key. -/
def AcceptsValue (key : Key) : Toml.Value → Prop
  | .text text => key.Accepts text
  | _ => False

instance (key : Key) (value : Toml.Value) : Decidable (key.AcceptsValue value) := by
  unfold AcceptsValue
  split <;> infer_instance

end Key

/-- The name under which an entry at the top of a file changes the settings. -/
def topName (name : String) : String :=
  match Place.read? name with
  | some ⟨top, _ :: _⟩ => top
  | _ => Text.lowerCase name

/-- Whether an entry of a section has nothing to do with the keys of that section, or is one of them
with a text that it accepts. -/
def EntryFits (home : String) (entry : String × Toml.Value) : Prop :=
  ∀ key : Key, key.home = home → Text.lowerCase entry.1 = key.name →
    entry.1 = key.name ∧ key.AcceptsValue entry.2

instance (home : String) (entry : String × Toml.Value) : Decidable (EntryFits home entry) :=
  inferInstanceAs (Decidable (∀ _, _ → _ → _))

/-- Whether a value is a section with entries that fit. -/
def SectionFits (home : String) : Toml.Value → Prop
  | .table _ entries => ∀ entry ∈ entries, EntryFits home entry
  | _ => False

instance (home : String) (value : Toml.Value) : Decidable (SectionFits home value) := by
  unfold SectionFits
  split <;> infer_instance

/-- Whether a file gives the keys of a configuration nothing but texts that they accept, each under
its name in its section. What else the file holds does not matter. -/
def Fits (file : Toml.Entries) : Prop :=
  ∀ entry ∈ file, ∀ key : Key, topName entry.1 = key.home →
    entry.1 = key.home ∧ SectionFits key.home entry.2

instance (file : Toml.Entries) : Decidable (Fits file) :=
  inferInstanceAs (Decidable (∀ entry ∈ file, ∀ _, _ → _))

/-! ## Names of keys -/

theorem lowerCase_name (key : Key) : Text.lowerCase key.name = key.name := by
  cases key <;> decide

theorem lowerCase_home (key : Key) : Text.lowerCase key.home = key.home := by
  cases key <;> decide

theorem read?_home (key : Key) : Place.read? key.home = some ⟨key.home, []⟩ := by
  cases key <;> decide +kernel

theorem topName_home (key : Key) : topName key.home = key.home := by
  rw [topName, read?_home]
  exact lowerCase_home key

/-- A text that a file gives is one that the key accepts. -/
theorem accepts_of_givenBy? {file : Toml.Entries} (fits : Fits file) {key : Key} {text : String}
    (given : key.givenBy? file = some text) : key.Accepts text := by
  obtain ⟨⟨name, value⟩, member, by_section⟩ := exists_of_lastSome? given
  unfold Key.givenBySection? at by_section
  split at by_section
  · next form entries table =>
    obtain rfl : value = .table form entries := table
    split at by_section
    · next home =>
      obtain rfl : name = key.home := home
      obtain ⟨-, entries_fit⟩ := fits _ member key (topName_home key)
      obtain ⟨⟨name, value⟩, member', by_entry⟩ := exists_of_lastSome? by_section
      unfold Key.givenByEntry? at by_entry
      split at by_entry
      · next text' is_text =>
        obtain rfl : value = .text text' := is_text
        split at by_entry
        · next own_name =>
          obtain rfl : name = key.name := own_name
          cases by_entry
          exact (entries_fit _ member' key rfl (lowerCase_name key)).2
        · cases by_entry
      · cases by_entry
    · cases by_section
  · cases by_section

/-! ## Entries of a section -/

variable {home : String} {settings current : Entries} {texts : Key → String}

theorem SectionHolds.congr {other : Key → String} (holds : SectionHolds home current texts)
    (same : ∀ key : Key, key.home = home → other key = texts key) :
    SectionHolds home current other := by
  intro key at_home
  rw [same key at_home]
  exact holds key at_home

/-- An entry of a section sets one key at most, and that key holds its text afterwards. -/
theorem SectionHolds.entryOver {entry : String × Toml.Value}
    (holds : SectionHolds home current texts) (fits : EntryFits home entry) (origin : String) :
    SectionHolds home (entryOver origin current entry)
      fun key => (key.givenByEntry? entry).getD (texts key) := by
  obtain ⟨name, value⟩ := entry
  intro key at_home
  rw [Config.entryOver]
  -- names are compared as they are stored, in lower case
  by_cases own_name : Text.lowerCase name = key.name
  · obtain ⟨same, accepted⟩ := fits key at_home own_name
    obtain rfl : name = key.name := same
    cases value with
    | text text =>
      rw [own_name, Entries.lookup_put_self, overlay, Setting.ofToml]
      · simp [Key.givenByEntry?]
      · nofun
    | integer | floating | boolean | moment | array | table => cases accepted
  · have not_given : key.givenByEntry? (name, value) = none := by
      unfold Key.givenByEntry?
      split
      · refine if_neg ?_
        rintro same
        obtain rfl : name = key.name := same
        exact own_name (lowerCase_name key)
      · rfl
    dsimp only
    rw [Entries.lookup_put_of_ne (Ne.symm own_name), not_given]
    exact holds key at_home

/-- All entries of a section, one after the other. -/
theorem SectionHolds.entriesOver {entries : Toml.Entries}
    (holds : SectionHolds home current texts) (fits : ∀ entry ∈ entries, EntryFits home entry)
    (origin : String) :
    SectionHolds home (entriesOver origin current entries)
      fun key => (lastSome? key.givenByEntry? entries).getD (texts key) := by
  induction entries generalizing current texts with
  | nil =>
    rw [Config.entriesOver]
    exact holds
  | cons entry rest ih =>
    rw [Config.entriesOver]
    have first := holds.entryOver (fits entry List.mem_cons_self) origin
    refine (ih first fun other member => fits other (List.mem_cons_of_mem _ member)).congr ?_
    intro key _
    rw [lastSome?_cons, Option.getD_or]

/-- A section of a file over a section goes over it entry by entry. -/
theorem overlay_table (origin : String) (place : Option String) (form : Toml.TableForm)
    (entries : Toml.Entries) :
    overlay origin (some (.table place current)) (.table form entries) =
      .table place (entriesOver origin current entries) := by
  cases entries with
  | nil =>
    rw [overlay, Config.entriesOver]
    rfl
  | cons entry rest =>
    rw [overlay, Config.entriesOver]
    rfl

/-- A section of a file where there was none becomes a section. -/
theorem overlay_none (origin : String) (form : Toml.TableForm) (entry : String × Toml.Value)
    (rest : Toml.Entries) :
    overlay origin none (.table form (entry :: rest)) =
      .table none (entriesOver origin [] (entry :: rest)) := by
  rw [overlay, Config.entriesOver]
  rfl

/-! ## Entries of a file -/

/-- An entry at the top of a file changes the setting of one name. -/
theorem exists_topEntryOver (origin : String) (settings : Entries)
    (entry : String × Toml.Value) :
    ∃ setting, topEntryOver origin settings entry = settings.put (topName entry.1) setting := by
  obtain ⟨name, value⟩ := entry
  simp only [Config.topEntryOver, topName]
  cases Place.read? name with
  | none => exact ⟨_, rfl⟩
  | some place =>
    obtain ⟨top, steps⟩ := place
    cases steps with
    | nil => exact ⟨_, rfl⟩
    | cons step rest => exact ⟨_, rfl⟩

theorem topEntryOver_home (origin : String) (key : Key) (value : Toml.Value) :
    topEntryOver origin settings (key.home, value) =
      settings.put key.home (overlay origin (settings.lookup key.home) value) := by
  simp only [Config.topEntryOver, read?_home, Config.entryOver, lowerCase_home]

/-- An entry that does not touch the section of a key gives the key nothing. -/
theorem givenBySection?_of_ne {entry : String × Toml.Value} {key : Key}
    (other : topName entry.1 ≠ key.home) : key.givenBySection? entry = none := by
  unfold Key.givenBySection?
  split
  · refine if_neg ?_
    intro same
    rw [same] at other
    exact other (topName_home key)
  · rfl

/-- An entry at the top of a file touches one section at most. -/
theorem Holds.topEntryOver {entry : String × Toml.Value} (holds : Holds settings texts)
    (fits : ∀ key : Key, topName entry.1 = key.home →
      entry.1 = key.home ∧ SectionFits key.home entry.2) (origin : String) :
    Holds (topEntryOver origin settings entry)
      fun key => (key.givenBySection? entry).getD (texts key) := by
  intro key
  obtain ⟨place, current, found, current_holds⟩ := holds key
  -- an entry for a place inside the section does not fit, so what touches it is its own name
  by_cases touched : topName entry.1 = key.home
  · obtain ⟨name, value⟩ := entry
    obtain ⟨same, entries_fit⟩ := fits key touched
    obtain rfl : name = key.home := same
    cases value with
    | table form entries =>
      refine ⟨place, entriesOver origin current entries, ?_, ?_⟩
      · rw [topEntryOver_home, Entries.lookup_put_self, found, overlay_table]
      · refine (current_holds.entriesOver entries_fit origin).congr ?_
        intro key' at_home
        simp [Key.givenBySection?, at_home]
    | text | integer | floating | boolean | moment | array => cases entries_fit
  · obtain ⟨setting, changed⟩ := exists_topEntryOver origin settings entry
    refine ⟨place, current, ?_, ?_⟩
    · rw [changed, Entries.lookup_put_of_ne (Ne.symm touched), found]
    · refine current_holds.congr ?_
      intro key' at_home
      have other : topName entry.1 ≠ key'.home := by rw [at_home]; exact touched
      rw [givenBySection?_of_ne other]
      rfl

/-- **A file over settings.** Every key has the text that the file gives it, or keeps its own. -/
theorem Holds.layerOver {file : Toml.Entries} (holds : Holds settings texts) (fits : Fits file)
    (origin : String) :
    Holds (layerOver origin file settings) fun key => (key.givenBy? file).getD (texts key) := by
  induction file generalizing settings texts with
  | nil => exact holds
  | cons entry rest ih =>
    have first := holds.topEntryOver (fits entry List.mem_cons_self) origin
    have same : (fun key : Key => (key.givenBy? (entry :: rest)).getD (texts key)) = fun key =>
        (key.givenBy? rest).getD ((key.givenBySection? entry).getD (texts key)) := by
      funext key
      rw [Key.givenBy?, lastSome?_cons, Option.getD_or]
      rfl
    rw [same]
    exact ih first fun other member => fits other (List.mem_cons_of_mem entry member)

/-! ## The built-in file -/

/-- The table that the built-in file describes. -/
def defaultFile : Toml.Entries :=
  [("parsing", .table .headed [("unrecognized-lines", .text "skip"), ("depth", .text "clamp"),
      ("line-endings", .text "any")]),
    ("rendering", .table .headed [("indent", .text "\t")])]

theorem parse?_defaultText : Toml.parse? defaultText = some defaultFile := by
  rw [Toml.parse?, defaultText, String.toList_ofList]
  decide +kernel

/-- **The built-in settings are what the built-in file gives**: its text is well-formed, and its
table over nothing leaves these settings, from wherever it is said to come. -/
theorem defaultSettings_eq (origin : String) :
    (Toml.parse? defaultText).map (layerOver origin · []) = some defaultSettings := by
  have parsing (value : Toml.Value) : topEntryOver origin [] ("parsing", value) =
      Entries.put "parsing" (overlay origin none value) [] :=
    topEntryOver_home origin .depth value
  have rendering (current : Entries) (value : Toml.Value) :
      topEntryOver origin current ("rendering", value) =
        current.put "rendering" (overlay origin (current.lookup "rendering") value) :=
    topEntryOver_home origin .indent value
  have lines : Text.lowerCase "unrecognized-lines" = _ := lowerCase_name .unrecognizedLines
  have depth : Text.lowerCase "depth" = _ := lowerCase_name .depth
  have endings : Text.lowerCase "line-endings" = _ := lowerCase_name .lineEndings
  have indent : Text.lowerCase "indent" = _ := lowerCase_name .indent
  rw [parse?_defaultText, Option.map_some, defaultFile, Config.layerOver, List.foldl_cons,
    List.foldl_cons, List.foldl_nil, parsing, rendering, overlay_none,
    Entries.lookup_put_of_ne (by decide), List.lookup_nil, overlay_none]
  simp [Config.entriesOver, Config.entryOver, overlay, Setting.ofToml, Entries.put, lines, depth,
    endings, indent, Key.name, defaultSettings]

end Shorthand.Config
