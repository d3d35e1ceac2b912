import Shorthand.Config.Basic

/-!
# Keys of a configuration

The four keys that a configuration is read off, each with its section and the texts that it accepts.
When settings hold a text for every key (`Holds`) and every key accepts its text, a configuration is
read off them, and the texts are all that it depends on (`configurationOf_of_holds`).
-/

namespace Shorthand.Config

/-- The keys of a configuration. -/
inductive Key where
  | unrecognizedLines
  | depth
  | lineEndings
  | indent
deriving DecidableEq, Repr

namespace Key

/-- All keys. -/
def all : List Key := [unrecognizedLines, depth, lineEndings, indent]

theorem mem_all (key : Key) : key ∈ all := by
  cases key <;> decide

instance {p : Key → Prop} [DecidablePred p] : Decidable (∀ key, p key) :=
  decidable_of_iff (∀ key ∈ all, p key)
    ⟨fun h key => h key (mem_all key), fun h key _ => h key⟩

/-- The section that a key stands in. -/
def home : Key → String
  | unrecognizedLines | depth | lineEndings => "parsing"
  | indent => "rendering"

/-- The name of a key in its section. -/
def name : Key → String
  | unrecognizedLines => "unrecognized-lines"
  | depth => "depth"
  | lineEndings => "line-endings"
  | indent => "indent"

/-- What a text given for a key stands for: words are told apart without their case, and an indent
is taken as it is. -/
def meaning : Key → String → String
  | unrecognizedLines, text | depth, text | lineEndings, text => Text.lowerCase text
  | indent, text => text

/-- Whether a text can be given for a key: one of its words, or any indent. -/
def Accepts : Key → String → Prop
  | unrecognizedLines, text => Text.lowerCase text ∈ LinePolicy.all.map LinePolicy.word
  | depth, text => Text.lowerCase text ∈ DepthPolicy.all.map DepthPolicy.word
  | lineEndings, text => Text.lowerCase text ∈ LineEndings.all.map LineEndings.word
  | indent, _ => True

instance (key : Key) (text : String) : Decidable (key.Accepts text) := by
  unfold Accepts
  cases key <;> infer_instance

/-- The text of a key in a configuration. -/
def textIn (configuration : Configuration) : Key → String
  | unrecognizedLines => configuration.parsing.unrecognizedLines.word
  | depth => configuration.parsing.depth.word
  | lineEndings => configuration.parsing.lineEndings.word
  | indent => configuration.rendering.indent

theorem linePolicy_ext {first second : LinePolicy} (same : first.word = second.word) :
    first = second := by
  cases first <;> cases second <;> revert same <;> decide

theorem depthPolicy_ext {first second : DepthPolicy} (same : first.word = second.word) :
    first = second := by
  cases first <;> cases second <;> revert same <;> decide

theorem lineEndings_ext {first second : Shorthand.LineEndings}
    (same : first.word = second.word) : first = second := by
  cases first <;> cases second <;> revert same <;> decide

/-- A configuration is what its keys say. -/
theorem configuration_ext {first second : Configuration}
    (same : ∀ key, textIn first key = textIn second key) : first = second := by
  obtain ⟨⟨lines, policy, endings⟩, ⟨text⟩⟩ := first
  obtain ⟨⟨lines', policy', endings'⟩, ⟨text'⟩⟩ := second
  obtain rfl : lines = lines' := linePolicy_ext (same unrecognizedLines)
  obtain rfl : policy = policy' := depthPolicy_ext (same depth)
  obtain rfl : endings = endings' := lineEndings_ext (same lineEndings)
  obtain rfl : text = text' := same indent
  rfl

end Key

/-! ## Reading -/

/-- A word is found among words without capitals when it is one of them in lower case. -/
theorem exists_choose {α : Type} {all : List α} {word : α → String} {text : String}
    (lower : ∀ item ∈ all, Text.lowerCase (word item) = word item)
    (known : Text.lowerCase text ∈ all.map word) (choice : String) :
    ∃ item, choose choice all word (.scalar (.text text)) = .ok item ∧
      word item = Text.lowerCase text := by
  obtain ⟨chosen, member, same⟩ := List.mem_map.1 known
  have finds : (all.find? fun item => Text.lowerCase (word item) = Text.lowerCase text).isSome := by
    rw [List.find?_isSome]
    exact ⟨chosen, member, by rw [lower chosen member, same]; simp⟩
  obtain ⟨item, found⟩ := Option.isSome_iff_exists.1 finds
  have word_item : word item = Text.lowerCase text := by
    rw [← lower item (List.mem_of_find?_eq_some found)]
    simpa using List.find?_some found
  exact ⟨item, by rw [choose, givenWord?]; simp only [found], word_item⟩

theorem readField_of_lookup {α : Type} {entries : Entries} {key : String} {setting : Setting}
    (found : entries.lookup key = some setting) (home : String) (place : Nat) (default : α)
    (read : String → Setting → Except ConfigError α) :
    readField (.table entries) home key place default read = read (home ++ "." ++ key) setting := by
  simp [readField, FieldSource.field?, found]

theorem sectionOf_of_lookup {settings : Entries} {name : String} {setting : Setting}
    (found : settings.lookup name = some setting) : sectionOf settings name = setting := by
  rw [sectionOf, found]
  rfl

/-- Whether the entries of a section hold a text for every key of that section. -/
def SectionHolds (home : String) (entries : Entries) (texts : Key → String) : Prop :=
  ∀ key : Key, key.home = home → entries.lookup key.name = some (.scalar (.text (texts key)))

theorem parsingSection_of_holds {entries : Entries} {texts : Key → String}
    (holds : SectionHolds "parsing" entries texts)
    (accepted : ∀ key : Key, key.Accepts (texts key)) (origin : Option String) :
    ∃ options, parsingSection (.table origin entries) = .ok options ∧
      options.unrecognizedLines.word = Text.lowerCase (texts .unrecognizedLines) ∧
      options.depth.word = Text.lowerCase (texts .depth) ∧
      options.lineEndings.word = Text.lowerCase (texts .lineEndings) := by
  obtain ⟨lines, lines_chosen, lines_word⟩ :=
    exists_choose (by decide) (accepted .unrecognizedLines) "LinePolicy"
  obtain ⟨depth, depth_chosen, depth_word⟩ :=
    exists_choose (by decide) (accepted .depth) "DepthPolicy"
  obtain ⟨endings, endings_chosen, endings_word⟩ :=
    exists_choose (by decide) (accepted .lineEndings) "LineEndings"
  have lines_at : entries.lookup "unrecognized-lines" = _ := holds .unrecognizedLines rfl
  have depth_at : entries.lookup "depth" = _ := holds .depth rfl
  have endings_at : entries.lookup "line-endings" = _ := holds .lineEndings rfl
  refine ⟨⟨lines, depth, endings⟩, ?_, lines_word, depth_word, endings_word⟩
  simp only [parsingSection, fieldSource, bind, Except.bind, readField_of_lookup lines_at,
    readField_of_lookup depth_at, readField_of_lookup endings_at, linePolicy, depthPolicy,
    lineEndings, lines_chosen, depth_chosen, endings_chosen]
  rfl

theorem renderingSection_of_holds {entries : Entries} {texts : Key → String}
    (holds : SectionHolds "rendering" entries texts) (origin : Option String) :
    renderingSection (.table origin entries) = .ok ⟨texts .indent⟩ := by
  have indent_at : entries.lookup "indent" = _ := holds .indent rfl
  simp only [renderingSection, fieldSource, bind, Except.bind, readField_of_lookup indent_at,
    textAt, Scalar.asText]
  rfl

/-! ## The configuration -/

/-- Whether settings hold a text for every key, in the section of the key. -/
def Holds (settings : Entries) (texts : Key → String) : Prop :=
  ∀ key : Key, ∃ origin entries, settings.lookup key.home = some (.table origin entries) ∧
    SectionHolds key.home entries texts

/-- The built-in settings hold what a configuration is when nothing is said. -/
theorem holds_defaultSettings : Holds defaultSettings (Key.textIn {}) := by
  have parsing : SectionHolds "parsing" (sectionOf defaultSettings "parsing").entries
      (Key.textIn {}) := by
    intro key home
    cases key with
    | indent => exact absurd home (by decide)
    | unrecognizedLines | depth | lineEndings => rfl
  have rendering : SectionHolds "rendering" (sectionOf defaultSettings "rendering").entries
      (Key.textIn {}) := by
    intro key home
    cases key with
    | indent => rfl
    | unrecognizedLines | depth | lineEndings => exact absurd home (by decide)
  intro key
  cases key with
  | indent => exact ⟨none, _, rfl, rendering⟩
  | unrecognizedLines | depth | lineEndings => exact ⟨none, _, rfl, parsing⟩

/-- **What is read off settings that hold texts**: a configuration, and what its keys say is what
their texts mean. -/
theorem configurationOf_of_holds {settings : Entries} {texts : Key → String}
    (holds : Holds settings texts) (accepted : ∀ key : Key, key.Accepts (texts key)) :
    ∃ configuration, configurationOf settings = .ok configuration ∧
      ∀ key, Key.textIn configuration key = key.meaning (texts key) := by
  obtain ⟨origin, entries, parsing, parsing_holds⟩ := holds .depth
  obtain ⟨origin', entries', rendering, rendering_holds⟩ := holds .indent
  have parsing_at : sectionOf settings "parsing" = .table origin entries :=
    sectionOf_of_lookup parsing
  have rendering_at : sectionOf settings "rendering" = .table origin' entries' :=
    sectionOf_of_lookup rendering
  obtain ⟨options, read, lines, depth, endings⟩ :=
    parsingSection_of_holds parsing_holds accepted origin
  refine ⟨⟨options, ⟨texts .indent⟩⟩, ?_, ?_⟩
  · simp only [configurationOf, parsing_at, rendering_at, bind, Except.bind, read,
      renderingSection_of_holds rendering_holds]
    rfl
  · intro key
    cases key with
    | unrecognizedLines => exact lines
    | depth => exact depth
    | lineEndings => exact endings
    | indent => rfl

end Shorthand.Config
