import Mathlib.Data.List.Basic
import Shorthand.Cli.Arguments

/-!
# What arguments ask for

Arguments are read by going from draft to draft. What they come to can be said without drafts.
Arguments spell out items, each of them a path, a flag or an option with its value (`Spells`), and a
command is made of items when these give the path once, no option and no flag twice, a format by its
name, and nothing that the command does not have (`Command.MadeOf`). Arguments ask for a command
exactly when they spell out items that it is made of (`request_eq_convert_iff`).
-/

namespace Shorthand.Cli

/-! ## Items -/

/-- Something that arguments give. -/
inductive Item where
  | path (text : String)
  | value (option : ValueOption) (text : String)
  | flag (flag : Flag)
deriving DecidableEq, Repr

namespace Item

/-- The path that an item gives. -/
def path? : Item → Option String
  | path text => some text
  | _ => none

/-- The value that an item gives an option. -/
def value? (option : ValueOption) : Item → Option String
  | value other text => if other = option then some text else none
  | _ => none

end Item

/-- The name of a format, as it is given. -/
def Format.word : Format → String
  | html => "html"
  | json => "json"

/-- Whether a command is what items give: its path and nothing that is given twice. -/
structure Command.MadeOf (command : Command) (items : List Item) : Prop where
  path : items.filterMap Item.path? = [command.path]
  output : items.filterMap (Item.value? .output) = command.output.toList
  config : items.filterMap (Item.value? .config) = command.config.toList
  format : items.filterMap (Item.value? .format) = [command.format.word] ∨
    items.filterMap (Item.value? .format) = [] ∧ command.format = .html
  strict : items.count (.flag .strict) = command.strict.toNat
  verbose : items.count (.flag .verbose) = command.verbose.toNat

/-! ## Spelling -/

/-- The long name of an option with a value. -/
def ValueOption.longName : ValueOption → String
  | output => "output"
  | config => "config"
  | format => "format"

/-- The short name of an option with a value. -/
def ValueOption.shortName : ValueOption → Char
  | output => 'o'
  | config => 'c'
  | format => 'f'

/-- The long name of a flag. -/
def Flag.longName : Flag → String
  | strict => "strict"
  | verbose => "verbose"

/-- The short name of a flag, if it has one. -/
def Flag.shortName? : Flag → Option Char
  | strict => none
  | verbose => some 'v'

/-- Whether an argument can be a path or a value by itself: only the dash alone starts with one. -/
def Plain (argument : String) : Prop := argument.toList.head? = some '-' → argument = "-"

instance (argument : String) : Decidable (Plain argument) :=
  inferInstanceAs (Decidable (_ → _))

/-- What short names spell out: flags, and maybe an option at the end. Its value is what is left of
the text, or it has still to come. -/
inductive SpellsShort : List Char → List Item → Option ValueOption → Prop
  | nil : SpellsShort [] [] none
  | flag {flag : Flag} {c : Char} {text : List Char} {items : List Item}
      {awaited : Option ValueOption} (named : flag.shortName? = some c)
      (later : SpellsShort text items awaited) :
    SpellsShort (c :: text) (.flag flag :: items) awaited
  | attached (option : ValueOption) {text : List Char} (some_text : text ≠ [])
      (no_sign : text.head? ≠ some '=') :
    SpellsShort (option.shortName :: text) [.value option (String.ofList text)] none
  | assigned (option : ValueOption) (text : List Char) :
    SpellsShort (option.shortName :: '=' :: text) [.value option (String.ofList text)] none
  | awaited (option : ValueOption) : SpellsShort [option.shortName] [] (some option)

/-- What one argument spells out, and the option whose value has still to come. -/
inductive SpellsOne : String → List Item → Option ValueOption → Prop
  | path {argument : String} (plain : Plain argument) : SpellsOne argument [.path argument] none
  | flag (flag : Flag) : SpellsOne ("--" ++ flag.longName) [.flag flag] none
  | assigned (option : ValueOption) (value : String) :
    SpellsOne ("--" ++ option.longName ++ "=" ++ value) [.value option value] none
  | awaited (option : ValueOption) : SpellsOne ("--" ++ option.longName) [] (some option)
  | short {text : List Char} {items : List Item} {awaited : Option ValueOption}
      (some_text : text ≠ []) (spelled : SpellsShort text items awaited) :
    SpellsOne ("-" ++ String.ofList text) items awaited

/-- What arguments spell out. Behind two dashes there are only paths. -/
inductive Spells : List String → List Item → Prop
  | nil : Spells [] []
  | paths (texts : List String) : Spells ("--" :: texts) (texts.map .path)
  | one {argument : String} {rest : List String} {now items : List Item}
      (spelled : SpellsOne argument now none) (later : Spells rest items) :
    Spells (argument :: rest) (now ++ items)
  | two {argument value : String} {rest : List String} {now items : List Item}
      {option : ValueOption} (spelled : SpellsOne argument now (some option))
      (plain : Plain value) (later : Spells rest items) :
    Spells (argument :: value :: rest) (now ++ .value option value :: items)

/-- Whether arguments ask for a command. -/
def Asks (arguments : List String) (command : Command) : Prop :=
  ∃ items, Spells arguments items ∧ command.MadeOf items

/-! ## Drafts -/

/-- Whether a draft is what items give so far. -/
structure Draft.MadeOf (draft : Draft) (items : List Item) : Prop where
  path : items.filterMap Item.path? = draft.path.toList
  output : items.filterMap (Item.value? .output) = draft.output.toList
  config : items.filterMap (Item.value? .config) = draft.config.toList
  format : items.filterMap (Item.value? .format) = draft.format.toList.map Format.word
  strict : items.count (.flag .strict) = draft.strict.toNat
  verbose : items.count (.flag .verbose) = draft.verbose.toNat

variable {draft after : Draft} {command : Command} {given items later : List Item}
  {name text : String}

theorem madeOf_nil : Draft.MadeOf {} [] := ⟨rfl, rfl, rfl, rfl, rfl, rfl⟩

theorem toList_inj {α : Type} {first second : Option α} :
    first.toList = second.toList ↔ first = second := by
  cases first <;> cases second <;> simp

theorem toNat_inj {first second : Bool} : first.toNat = second.toNat ↔ first = second := by
  cases first <;> cases second <;> simp

/-- The formats that are named come to one format, which is HTML when none is named. -/
theorem getD_html_eq_iff {named : Option Format} {format : Format} :
    named.getD .html = format ↔
      named.toList.map Format.word = [format.word] ∨
        named.toList.map Format.word = [] ∧ format = .html := by
  cases named with
  | none => simp [eq_comm]
  | some named => cases named <;> cases format <;> simp [Format.word]

/-- A finished draft gives the command that its items make. -/
theorem complete_eq_convert (made : draft.MadeOf given) :
    draft.complete = .ok (.convert command) ↔ command.MadeOf given := by
  obtain ⟨path, output, config, format, strict, verbose⟩ := draft
  obtain ⟨path', output', config', format', strict', verbose'⟩ := command
  constructor
  · intro complete
    cases path with
    | none => cases complete
    | some path =>
      cases complete
      exact ⟨made.path, made.output, made.config, by rw [made.format]; exact getD_html_eq_iff.1 rfl,
        made.strict, made.verbose⟩
  · rintro ⟨path_made, output_made, config_made, format_made, strict_made, verbose_made⟩
    rw [made.path] at path_made
    rw [made.output] at output_made
    rw [made.config] at config_made
    rw [made.format] at format_made
    rw [made.strict] at strict_made
    rw [made.verbose] at verbose_made
    obtain rfl : path = some path' := Option.toList_eq_singleton_iff.1 path_made
    obtain rfl : output = output' := toList_inj.1 output_made
    obtain rfl : config = config' := toList_inj.1 config_made
    obtain rfl : format.getD .html = format' := getD_html_eq_iff.2 format_made
    obtain rfl : strict = strict' := toNat_inj.1 strict_made
    obtain rfl : verbose = verbose' := toNat_inj.1 verbose_made
    rfl

theorem toList_ne_of_two {α : Type} {only : Option α} (first second : α) (rest : List α) :
    first :: second :: rest ≠ only.toList := by
  cases only <;> simp

/-- What becomes of a draft that is made of some items when one more is taken: a draft that is made
of them all, or nothing, and then no command is made of items that go on like this. -/
def Takes (given : List Item) (item : Item) (taken : Except UsageError Draft) : Prop :=
  (∃ after, taken = .ok after ∧ after.MadeOf (given ++ [item])) ∨
    (∃ error, taken = .error error) ∧
      ∀ command later, ¬ Command.MadeOf command (given ++ item :: later)

theorem takes_path (made : draft.MadeOf given) (text : String) :
    Takes given (.path text) (draft.addPath text) := by
  obtain ⟨path, output, config, format, strict, verbose⟩ := draft
  obtain ⟨made_path, made_output, made_config, made_format, made_strict, made_verbose⟩ := made
  cases path with
  | none =>
    refine .inl ⟨_, rfl, ?_⟩
    constructor <;> simp [Item.path?, Item.value?, *]
  | some old =>
    refine .inr ⟨⟨_, rfl⟩, fun command later all => ?_⟩
    have twice := all.path
    simp [Item.path?, made_path] at twice

theorem takes_flag (made : draft.MadeOf given) (name : String) (flag : Flag) :
    Takes given (.flag flag) (draft.addFlag name flag) := by
  obtain ⟨path, output, config, format, strict, verbose⟩ := draft
  obtain ⟨made_path, made_output, made_config, made_format, made_strict, made_verbose⟩ := made
  cases flag with
  | strict =>
    cases strict with
    | false =>
      refine .inl ⟨_, rfl, ?_⟩
      constructor <;> simp [Item.path?, Item.value?, *]
    | true =>
      refine .inr ⟨⟨_, rfl⟩, fun command later all => ?_⟩
      have twice := all.strict
      have once := command.strict.toNat_le
      simp [made_strict] at twice
      omega
  | verbose =>
    cases verbose with
    | false =>
      refine .inl ⟨_, rfl, ?_⟩
      constructor <;> simp [Item.path?, Item.value?, *]
    | true =>
      refine .inr ⟨⟨_, rfl⟩, fun command later all => ?_⟩
      have twice := all.verbose
      have once := command.verbose.toNat_le
      simp [made_verbose] at twice
      omega

theorem takes_value (made : draft.MadeOf given) (name text : String) (option : ValueOption) :
    Takes given (.value option text) (draft.addValue name text option) := by
  obtain ⟨path, output, config, format, strict, verbose⟩ := draft
  obtain ⟨made_path, made_output, made_config, made_format, made_strict, made_verbose⟩ := made
  cases option with
  | output =>
    cases output with
    | none =>
      refine .inl ⟨_, rfl, ?_⟩
      constructor <;> simp [Item.path?, Item.value?, *]
    | some old =>
      refine .inr ⟨⟨_, rfl⟩, fun command later all => ?_⟩
      exact toList_ne_of_two old text _ (by simpa [Item.value?, made_output] using all.output)
  | config =>
    cases config with
    | none =>
      refine .inl ⟨_, rfl, ?_⟩
      constructor <;> simp [Item.path?, Item.value?, *]
    | some old =>
      refine .inr ⟨⟨_, rfl⟩, fun command later all => ?_⟩
      exact toList_ne_of_two old text _ (by simpa [Item.value?, made_config] using all.config)
  | format =>
    cases format with
    | none =>
      by_cases html : text = Format.html.word
      · refine .inl ⟨_, if_pos html, ?_⟩
        constructor <;> simp [Item.path?, Item.value?, *]
      · by_cases json : text = Format.json.word
        · refine .inl ⟨_, (if_neg html).trans (if_pos json), ?_⟩
          constructor <;> simp [Item.path?, Item.value?, *]
        · refine .inr ⟨⟨_, (if_neg html).trans (if_neg json)⟩, fun command later all => ?_⟩
          have named := all.format
          cases word : command.format <;> simp [Item.value?, *] at named
    | some old =>
      refine .inr ⟨⟨_, rfl⟩, fun command later all => ?_⟩
      have twice := all.format
      simp [Item.value?, made_format] at twice

/-! ## One argument -/

theorem mem_of_lookup {α β : Type} [BEq α] [LawfulBEq α] {table : List (α × β)} {key : α}
    {result : β} (found : table.lookup key = some result) : (key, result) ∈ table := by
  obtain ⟨before, behind, rfl, -⟩ := List.lookup_eq_some_iff.1 found
  simp

theorem lookup_short_flag {c : Char} {flag : Flag} :
    shortNames.lookup c = some (.flag flag) ↔ flag.shortName? = some c := by
  constructor
  · intro found
    have member := mem_of_lookup found
    simp [shortNames] at member
    obtain ⟨rfl, rfl⟩ := member
    rfl
  · cases flag <;> rintro ⟨⟩
    rfl

theorem lookup_short_value {c : Char} {option : ValueOption} :
    shortNames.lookup c = some (.value option) ↔ c = option.shortName := by
  constructor
  · intro found
    have member := mem_of_lookup found
    simp [shortNames] at member
    rcases member with ⟨rfl, rfl⟩ | ⟨rfl, rfl⟩ | ⟨rfl, rfl⟩ <;> rfl
  · rintro rfl
    cases option <;> rfl

theorem lookup_long_flag {given : String} {flag : Flag} :
    longNames.lookup given = some (.flag flag) ↔ given = flag.longName := by
  constructor
  · intro found
    have member := mem_of_lookup found
    simp [longNames] at member
    rcases member with ⟨rfl, rfl⟩ | ⟨rfl, rfl⟩ <;> rfl
  · rintro rfl
    cases flag <;> rfl

theorem lookup_long_value {given : String} {option : ValueOption} :
    longNames.lookup given = some (.value option) ↔ given = option.longName := by
  constructor
  · intro found
    have member := mem_of_lookup found
    simp [longNames] at member
    rcases member with ⟨rfl, rfl⟩ | ⟨rfl, rfl⟩ | ⟨rfl, rfl⟩ <;> rfl
  · rintro rfl
    cases option <;> rfl

/-- Where an argument leaves a draft: made of all items so far, and waiting for a value if the
argument leaves one open. -/
inductive Leads (all : List Item) : Option ValueOption → Step → Prop
  | next {draft : Draft} (made : draft.MadeOf all) : Leads all none (.next draft)
  | await {draft : Draft} (made : draft.MadeOf all) (name : String) (option : ValueOption) :
    Leads all (some option) (.await draft name option)

/-- Whether a step ends the reading with something other than a conversion. -/
def Step.Ends : Step → Prop
  | .answer .version | .answer .help => True
  | _ => False

theorem leads_of_taken {item : Item} {taken : Except UsageError Draft} {step : Step}
    (takes : Takes given item taken) (read : Step.next <$> taken = .ok step) :
    Leads (given ++ [item]) none step := by
  rcases takes with ⟨after, rfl, made⟩ | ⟨⟨error, rfl⟩, -⟩
  · cases read
    exact .next made
  · cases read

theorem step_of_takes {item : Item} {taken : Except UsageError Draft}
    (takes : Takes given item taken) (fits : command.MadeOf (given ++ [item] ++ later)) :
    ∃ step, Step.next <$> taken = .ok step ∧ Leads (given ++ [item]) none step := by
  rcases takes with ⟨after, rfl, made⟩ | ⟨-, never⟩
  · exact ⟨_, rfl, .next made⟩
  · rw [List.append_assoc] at fits
    exact absurd fits (never command later)

/-- Short names that are read are spelled out. -/
theorem spellsShort_of_read {text : List Char} {step : Step} (made : draft.MadeOf given)
    (read : readShort draft text = .ok step) :
    step.Ends ∨ ∃ items awaited, SpellsShort text items awaited ∧
      Leads (given ++ items) awaited step := by
  induction text generalizing draft given with
  | nil =>
    cases read
    exact .inr ⟨[], none, .nil, .next (by rwa [List.append_nil])⟩
  | cons c rest ih =>
    rw [readShort] at read
    cases found : shortNames.lookup c with
    | none =>
      rw [found] at read
      cases read
    | some switch =>
      rw [found] at read
      cases switch with
      | version =>
        cases read
        exact .inl trivial
      | help =>
        cases read
        exact .inl trivial
      | flag flag =>
        simp only at read
        rcases takes_flag made ("-" ++ c.toString) flag with
          ⟨after, taken, made'⟩ | ⟨⟨error, refused⟩, -⟩
        · rw [taken] at read
          rcases ih made' read with ends | ⟨items, awaited, spelled, leads⟩
          · exact .inl ends
          · rw [List.append_assoc] at leads
            exact .inr ⟨_, awaited, .flag (lookup_short_flag.1 found) spelled, leads⟩
        · rw [refused] at read
          cases read
      | value option =>
        cases lookup_short_value.1 found
        simp only at read
        split at read
        · cases read
          exact .inr ⟨[], some option, .awaited option, .await (by rwa [List.append_nil]) _ _⟩
        · next value =>
          exact .inr ⟨_, none, .assigned option value,
            leads_of_taken (takes_value made _ _ _) read⟩
        · next some_text no_sign =>
          refine .inr ⟨_, none, .attached option some_text ?_,
            leads_of_taken (takes_value made _ _ _) read⟩
          intro sign
          obtain ⟨value, rfl⟩ := List.head?_eq_some_iff.1 sign
          exact no_sign value rfl

/-- Short names that spell out what a command goes on with are read. -/
theorem read_of_spellsShort {text : List Char} {awaited : Option ValueOption}
    (spelled : SpellsShort text items awaited) (made : draft.MadeOf given)
    (fits : command.MadeOf (given ++ items ++ later)) :
    ∃ step, readShort draft text = .ok step ∧ Leads (given ++ items) awaited step := by
  induction spelled generalizing draft given with
  | nil => exact ⟨.next draft, rfl, .next (by rwa [List.append_nil])⟩
  | @flag flag c text items awaited named _ ih =>
    rw [readShort, lookup_short_flag.2 named]
    rw [List.append_assoc, List.cons_append] at fits
    rcases takes_flag made ("-" ++ c.toString) flag with ⟨after, taken, made'⟩ | ⟨-, never⟩
    · simp only [taken]
      have fits' : command.MadeOf (given ++ [.flag flag] ++ items ++ later) := by simpa using fits
      obtain ⟨step, read, leads⟩ := ih made' fits'
      rw [List.append_assoc] at leads
      exact ⟨step, read, leads⟩
    · exact absurd fits (never command _)
  | @attached option text some_text no_sign =>
    rw [readShort, lookup_short_value.2 rfl]
    simp only
    split
    · exact absurd rfl some_text
    · exact absurd rfl no_sign
    · exact step_of_takes (takes_value made _ _ _) fits
  | assigned option text =>
    rw [readShort, lookup_short_value.2 rfl]
    exact step_of_takes (takes_value made _ _ _) fits
  | awaited option =>
    rw [readShort, lookup_short_value.2 rfl]
    exact ⟨_, rfl, .await (by rwa [List.append_nil]) _ _⟩

theorem readLong_flag (draft : Draft) (flag : Flag) :
    readLong draft flag.longName.toList =
      Step.next <$> draft.addFlag ("--" ++ flag.longName) flag := by
  cases flag <;> rfl

theorem readLong_assigned (draft : Draft) (option : ValueOption) (value : List Char) :
    readLong draft (option.longName.toList ++ '=' :: value) =
      Step.next <$> draft.addValue ("--" ++ option.longName) (String.ofList value) option := by
  cases option <;> rfl

theorem readLong_awaited (draft : Draft) (option : ValueOption) :
    readLong draft option.longName.toList =
      .ok (.await draft ("--" ++ option.longName) option) := by
  cases option <;> rfl

/-- A long name ends at an equals sign, or with the argument. -/
theorem longName_cases (text : List Char) :
    ∃ name : String, String.ofList (text.takeWhile (· ≠ '=')) = name ∧
      (text.dropWhile (· ≠ '=') = [] ∧ text = name.toList ∨
        ∃ value, text.dropWhile (· ≠ '=') = '=' :: value ∧ text = name.toList ++ '=' :: value) := by
  have whole : text.takeWhile (· ≠ '=') ++ text.dropWhile (· ≠ '=') = text :=
    List.takeWhile_append_dropWhile
  refine ⟨_, rfl, ?_⟩
  rw [String.toList_ofList]
  cases behind : text.dropWhile (· ≠ '=') with
  | nil =>
    rw [behind, List.append_nil] at whole
    exact .inl ⟨rfl, whole.symm⟩
  | cons c value =>
    have sign := List.head?_dropWhile_not (· ≠ '=') text
    simp only [behind, List.head?_cons] at sign
    obtain rfl : c = '=' := by simpa using sign
    rw [behind] at whole
    exact .inr ⟨value, rfl, whole.symm⟩

/-- A long name that is read is spelled out. -/
theorem spellsOne_of_readLong {text : List Char} {step : Step} (made : draft.MadeOf given)
    (read : readLong draft text = .ok step) :
    step.Ends ∨ ∃ items awaited, SpellsOne (String.ofList ('-' :: '-' :: text)) items awaited ∧
      Leads (given ++ items) awaited step := by
  obtain ⟨name, named, parts⟩ := longName_cases text
  simp only [readLong, named] at read
  cases found : longNames.lookup name with
  | none =>
    rw [found] at read
    cases read
  | some switch =>
    rw [found] at read
    rcases parts with ⟨behind, rfl⟩ | ⟨value, behind, rfl⟩
    · rw [behind] at read
      have argument : String.ofList ('-' :: '-' :: name.toList) = "--" ++ name := by
        rw [← String.toList_inj]
        simp
      rw [argument]
      cases switch with
      | value option =>
        cases lookup_long_value.1 found
        cases read
        exact .inr ⟨[], some option, .awaited option, .await (by rwa [List.append_nil]) _ _⟩
      | flag flag =>
        cases lookup_long_flag.1 found
        exact .inr ⟨_, none, .flag flag, leads_of_taken (takes_flag made _ _) read⟩
      | version =>
        cases read
        exact .inl trivial
      | help =>
        cases read
        exact .inl trivial
    · rw [behind] at read
      have argument : String.ofList ('-' :: '-' :: (name.toList ++ '=' :: value)) =
          "--" ++ name ++ "=" ++ String.ofList value := by
        rw [← String.toList_inj]
        simp
      rw [argument]
      cases switch with
      | value option =>
        cases lookup_long_value.1 found
        exact .inr ⟨_, none, .assigned option _, leads_of_taken (takes_value made _ _ _) read⟩
      | flag flag => cases read
      | version => cases read
      | help => cases read

theorem looksLikeOption_eq_false_iff {argument : String} :
    looksLikeOption argument = false ↔ Plain argument := by
  have alone : argument = "-" ↔ argument.toList = ['-'] := by
    rw [← String.toList_inj]
    rfl
  rw [Plain, alone, looksLikeOption]
  split
  · next rest text => simp [text]
  · next other =>
    refine ⟨fun _ dash => ?_, fun _ => rfl⟩
    obtain ⟨rest, text⟩ := List.head?_eq_some_iff.1 dash
    cases rest with
    | nil => exact text
    | cons c rest => exact absurd text (other c rest)

/-- An argument that is read is spelled out. -/
theorem spellsOne_of_read {argument : String} {step : Step} (made : draft.MadeOf given)
    (read : readArgument draft argument = .ok step) :
    step.Ends ∨ ∃ items awaited, SpellsOne argument items awaited ∧
      Leads (given ++ items) awaited step := by
  unfold readArgument at read
  split at read
  · next text long =>
    have spelled := spellsOne_of_readLong made read
    rwa [← long, String.ofList_toList] at spelled
  · next c rest _ short =>
    have dash : "-" ++ String.ofList (c :: rest) = argument := by
      rw [← String.toList_inj, short]
      simp
    rcases spellsShort_of_read made read with ends | ⟨items, awaited, spelled, leads⟩
    · exact .inl ends
    · rw [← dash]
      exact .inr ⟨items, awaited, .short (List.cons_ne_nil c rest) spelled, leads⟩
  · next not_long not_short =>
    refine .inr ⟨_, none, .path ?_, leads_of_taken (takes_path made argument) read⟩
    rw [← looksLikeOption_eq_false_iff, looksLikeOption]
    split
    · next c rest text => exact absurd text (not_short c rest)
    · rfl

/-- No name is a dash, so two dashes are not taken for a short name. -/
theorem SpellsShort.name_ne_dash {c : Char} {text : List Char} {awaited : Option ValueOption}
    (spelled : SpellsShort (c :: text) items awaited) : c ≠ '-' := by
  cases spelled with
  | @flag flag c text items awaited named later =>
    cases flag <;> cases named
    decide
  | attached option some_text no_sign => cases option <;> decide
  | assigned option text => cases option <;> decide
  | awaited option => cases option <;> decide

theorem readArgument_short {c : Char} (no_dash : c ≠ '-') (draft : Draft) (text : List Char) :
    readArgument draft ("-" ++ String.ofList (c :: text)) = readShort draft (c :: text) := by
  have characters : ("-" ++ String.ofList (c :: text)).toList = '-' :: c :: text := by simp
  unfold readArgument
  rw [characters]
  split
  · next same =>
    cases same
    exact absurd rfl no_dash
  · next same =>
    cases same
    rfl
  · next other => exact absurd rfl (other c text)

/-- An argument that spells out what a command goes on with is read. -/
theorem read_of_spellsOne {argument : String} {awaited : Option ValueOption}
    (spelled : SpellsOne argument items awaited) (made : draft.MadeOf given)
    (fits : command.MadeOf (given ++ items ++ later)) :
    ∃ step, readArgument draft argument = .ok step ∧ Leads (given ++ items) awaited step := by
  cases spelled with
  | path plain =>
    have read : readArgument draft argument = Step.next <$> draft.addPath argument := by
      rw [← looksLikeOption_eq_false_iff] at plain
      unfold readArgument
      split
      · next text long => simp [looksLikeOption, long] at plain
      · next c rest _ short => simp [looksLikeOption, short] at plain
      · rfl
    rw [read]
    exact step_of_takes (takes_path made argument) fits
  | flag flag =>
    have read : readArgument draft ("--" ++ flag.longName) = readLong draft flag.longName.toList := by
      cases flag <;> rfl
    rw [read, readLong_flag]
    exact step_of_takes (takes_flag made _ flag) fits
  | assigned option value =>
    have read : readArgument draft ("--" ++ option.longName ++ "=" ++ value) =
        readLong draft (option.longName.toList ++ '=' :: value.toList) := by
      simp [readArgument]
    rw [read, readLong_assigned, String.ofList_toList]
    exact step_of_takes (takes_value made _ value option) fits
  | awaited option =>
    have read : readArgument draft ("--" ++ option.longName) =
        readLong draft option.longName.toList := by
      cases option <;> rfl
    rw [read, readLong_awaited]
    exact ⟨_, rfl, .await (by rwa [List.append_nil]) _ _⟩
  | @short text _ _ some_text spelled =>
    obtain ⟨c, rest, rfl⟩ := List.exists_cons_of_ne_nil some_text
    rw [readArgument_short spelled.name_ne_dash]
    exact read_of_spellsShort spelled made fits

/-- Two dashes alone spell nothing out, and do not leave a value open either. -/
theorem SpellsOne.ne_dashes {argument : String} {awaited : Option ValueOption}
    (spelled : SpellsOne argument items awaited) : argument ≠ "--" := by
  rintro same
  cases spelled with
  | path plain =>
    subst same
    exact absurd plain (by decide)
  | flag flag => cases flag <;> exact absurd same (by decide)
  | assigned option value =>
    have characters := congrArg String.toList same
    cases option <;> simp [ValueOption.longName] at characters
  | awaited option => cases option <;> exact absurd same (by decide)
  | @short text _ _ some_text spelled =>
    obtain ⟨c, rest, rfl⟩ := List.exists_cons_of_ne_nil some_text
    have characters := congrArg String.toList same
    simp at characters
    exact spelled.name_ne_dash characters.1

/-! ## All arguments -/

/-- Paths behind two dashes are taken, or no command goes on with them. -/
theorem addPaths_cases (made : draft.MadeOf given) (paths : List String) :
    (∃ after, paths.foldlM Draft.addPath draft = .ok after ∧
        after.MadeOf (given ++ paths.map .path)) ∨
      (∃ error, paths.foldlM Draft.addPath draft = .error error) ∧
        ∀ command, ¬ Command.MadeOf command (given ++ paths.map .path) := by
  induction paths generalizing draft given with
  | nil => exact .inl ⟨draft, rfl, by rwa [List.map_nil, List.append_nil]⟩
  | cons path rest ih =>
    rw [List.foldlM_cons, List.map_cons]
    rcases takes_path made path with ⟨after, taken, made'⟩ | ⟨⟨error, refused⟩, never⟩
    · rw [taken, List.append_cons]
      exact ih made'
    · rw [refused]
      exact .inr ⟨⟨error, rfl⟩, fun command => never command _⟩

/-- Arguments that are read spell out what the command goes on with. -/
theorem spells_of_read {arguments : List String} (made : draft.MadeOf given)
    (read : readFrom draft arguments = .ok (.convert command)) :
    ∃ items, Spells arguments items ∧ command.MadeOf (given ++ items) := by
  revert given
  -- the cases are the ways on which an argument is read; those that end in an error ask for nothing
  fun_induction readFrom draft arguments with
  | case1 draft =>
    intro given made
    exact ⟨[], .nil, by rw [List.append_nil]; exact (complete_eq_convert made).1 read⟩
  | case2 draft texts =>
    intro given made
    rcases addPaths_cases made texts with ⟨after, taken, made'⟩ | ⟨⟨error, refused⟩, -⟩
    · rw [taken] at read
      exact ⟨_, .paths texts, (complete_eq_convert made').1 read⟩
    · rw [refused] at read
      cases read
  | case3 => cases read
  | case4 draft argument rest option answer one =>
    intro given made
    cases read
    obtain ⟨items, awaited, -, leads⟩ := (spellsOne_of_read made one).resolve_left id
    cases leads
  | case5 draft argument rest option between one ih =>
    intro given made
    obtain ⟨now, awaited, spelled, leads⟩ := (spellsOne_of_read made one).resolve_left id
    cases leads with
    | next made' =>
      obtain ⟨items, later, fits⟩ := ih read made'
      rw [List.append_assoc] at fits
      exact ⟨_, .one spelled later, fits⟩
  | case6 => cases read
  | case7 => cases read
  | case8 => cases read
  | case9 draft argument option between name awaited one value rest fit after added ih =>
    intro given made
    obtain ⟨now, awaited, spelled, leads⟩ := (spellsOne_of_read made one).resolve_left id
    cases leads with
    | await made' =>
      rcases takes_value made' name value awaited with
        ⟨after', taken, made''⟩ | ⟨⟨error, refused⟩, -⟩
      · cases added.symm.trans taken
        obtain ⟨items, later, fits⟩ := ih read made''
        have plain := looksLikeOption_eq_false_iff.1 (Bool.eq_false_iff.2 fit)
        refine ⟨_, .two spelled plain later, ?_⟩
        simpa using fits
      · cases added.symm.trans refused

/-- Arguments that spell out what a command goes on with are read. -/
theorem read_of_spells {arguments : List String} (spelled : Spells arguments items)
    (made : draft.MadeOf given) (fits : command.MadeOf (given ++ items)) :
    readFrom draft arguments = .ok (.convert command) := by
  -- every item belongs to the command, so no step can refuse it
  induction spelled generalizing draft given with
  | nil =>
    rw [List.append_nil] at fits
    rw [readFrom]
    exact (complete_eq_convert made).2 fits
  | paths texts =>
    rw [readFrom, if_pos rfl]
    rcases addPaths_cases made texts with ⟨after, taken, made'⟩ | ⟨-, never⟩
    · rw [taken]
      exact (complete_eq_convert made').2 fits
    · exact absurd fits (never command)
  | @one argument rest now items spelled _ ih =>
    rw [← List.append_assoc] at fits
    obtain ⟨step, read, leads⟩ := read_of_spellsOne spelled made fits
    rw [readFrom, if_neg spelled.ne_dashes, read]
    cases leads with
    | next made' => exact ih made' fits
  | @two argument value rest now items option spelled plain _ ih =>
    rw [← List.append_assoc] at fits
    obtain ⟨step, read, leads⟩ := read_of_spellsOne spelled made fits
    rw [readFrom, if_neg spelled.ne_dashes, read]
    cases leads with
    | @await between made' name option =>
      simp only [looksLikeOption_eq_false_iff.2 plain]
      rcases takes_value made' name value option with ⟨after, taken, made''⟩ | ⟨-, never⟩
      · simp only [taken]
        refine ih made'' ?_
        rwa [List.append_cons] at fits
      · exact absurd fits (never command items)

/-- **What arguments ask for**: the command that is made of what they spell out, and none when there
is no such command. -/
theorem request_eq_convert_iff {arguments : List String} :
    request arguments = .ok (.convert command) ↔ Asks arguments command := by
  unfold request
  constructor
  · intro asked
    split at asked
    · cases asked
    · obtain ⟨items, spelled, fits⟩ := spells_of_read madeOf_nil asked
      exact ⟨items, spelled, fits⟩
  · rintro ⟨items, spelled, fits⟩
    have some_argument : arguments ≠ [] := by
      rintro rfl
      cases spelled
      have no_path := fits.path
      cases no_path
    rw [if_neg some_argument]
    exact read_of_spells spelled madeOf_nil fits

example : request ["-vf", "json", "--strict", "page", "--output=out"] =
    .ok (.convert ⟨"page", some "out", none, .json, true, true⟩) := by decide +kernel

/-- Events can be asked for in front of arguments that do not ask for them, and nothing else
changes. -/
theorem Asks.verbose {arguments : List String} (asks : Asks arguments command)
    (quiet : command.verbose = false) :
    Asks ("-v" :: arguments) { command with verbose := true } := by
  obtain ⟨items, spelled, made⟩ := asks
  have flag : SpellsOne "-v" [.flag .verbose] none :=
    .short (List.cons_ne_nil 'v' []) (.flag rfl .nil)
  refine ⟨_, .one flag spelled, ?_⟩
  have none_given := made.verbose
  rw [quiet] at none_given
  exact ⟨made.path, made.output, made.config, made.format, by simpa using made.strict,
    by simpa using none_given⟩

end Shorthand.Cli
