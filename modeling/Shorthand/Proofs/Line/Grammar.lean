import Shorthand.Line.Kind

/-!
# The grammar of a line

A line is shorthand exactly when it can be written as a well-formed reading, whatever else it can
be written as. That what is read is well-formed follows the reader part by part. That a line is
never missed is the harder half: the reader takes the tag, the id and the class run as long as
they go and never comes back to them. It may do so because whatever a shorter id or class run
leaves to the rest of the line is blank, so the rest stays readable (`Finishable.dropWhile`); only
the attribute pairs need a search, and that goes through all of them
(`isSome_readTail?_of_readable`).
-/

namespace Shorthand.Line

open Attribute (Pair)

/-! ## Well-formed parts -/

/-- What may follow everything else on a line: a text on one line, then blanks. -/
structure Ending.WellFormed (ending : Ending) : Prop where
  text : '\n' ∉ ending.text
  trail : ∀ c ∈ ending.trail, c = ' ' ∨ c = '\t'

def Ending.written (ending : Ending) : List Char := marked ' ' ending.text ++ ending.trail

/-- Whether a text can be read as the end of a line. -/
def Readable (text : List Char) : Prop :=
  ∃ ending : Ending, ending.WellFormed ∧ ending.written = text

/-- Whether a text can be read as attribute pairs and the end of a line. -/
def Finishable (text : List Char) : Prop :=
  ∃ pairs rest, (∀ pair ∈ pairs, Pair.WellFormed pair) ∧ Readable rest ∧
    attributeRun pairs ++ rest = text

/-- A class run: a dot and at least one more character up to the next space. -/
def IsClassRun (run : List Char) : Prop :=
  ∃ classes, run = '.' :: classes ∧ classes ≠ [] ∧ ' ' ∉ classes

/-- The line grammar: a known tag, an id without spaces and dots, a class run, attribute pairs, a
text without line feeds and trailing blanks, of which all but the tag may be missing. -/
structure Reading.WellFormed (reading : Reading) : Prop where
  tag : isShorthandTag (String.ofList reading.tag) = true
  id : ∀ c ∈ reading.id, c ≠ ' ' ∧ c ≠ '.'
  classRun : reading.classRun = [] ∨ IsClassRun reading.classRun
  pairs : ∀ pair ∈ reading.pairs, pair.WellFormed
  text : '\n' ∉ reading.text
  trail : ∀ c ∈ reading.trail, c = ' ' ∨ c = '\t'

/-! ## The end of a line -/

theorem isTrailing_iff {c : Char} : isTrailing c = true ↔ c = ' ' ∨ c = '\t' := by
  simp [isTrailing]

theorem readEnding?_eq_some {text : List Char} {ending : Ending}
    (h : readEnding? text = some ending) : ending.WellFormed ∧ ending.written = text := by
  by_cases start : ∃ c rest, text = ' ' :: c :: rest
  · obtain ⟨c, rest, rfl⟩ := start
    rw [readEnding?_text] at h
    by_cases oneLine : '\n' ∈ c :: rest
    · rw [if_pos oneLine] at h
      cases h
    · rw [if_neg oneLine] at h
      cases h
      exact ⟨⟨oneLine, by simp⟩, by simp [Ending.written, marked]⟩
  · rw [readEnding?_of_not_text fun c rest e => start ⟨c, rest, e⟩] at h
    by_cases blank : text.all isTrailing = true
    · rw [if_pos blank] at h
      cases h
      refine ⟨⟨List.not_mem_nil, ?_⟩, rfl⟩
      intro c member
      exact isTrailing_iff.1 (List.all_eq_true.1 blank c member)
    · rw [if_neg blank] at h
      cases h

theorem isSome_readEnding?_of_trailing {text : List Char}
    (blank : ∀ c ∈ text, c = ' ' ∨ c = '\t') : (readEnding? text).isSome = true := by
  by_cases start : ∃ c rest, text = ' ' :: c :: rest
  · obtain ⟨c, rest, rfl⟩ := start
    -- blanks hold no line feed, so they can be read as a text
    have oneLine : '\n' ∉ c :: rest := by
      intro member
      rcases blank '\n' (List.mem_cons_of_mem _ member) with h | h <;> cases h
    rw [readEnding?_text, if_neg oneLine]
    rfl
  · have all : text.all isTrailing = true := by
      rw [List.all_eq_true]
      intro c member
      exact isTrailing_iff.2 (blank c member)
    rw [readEnding?_of_not_text fun c rest e => start ⟨c, rest, e⟩, if_pos all]
    rfl

theorem isSome_readEnding?_iff {text : List Char} :
    (readEnding? text).isSome = true ↔ Readable text := by
  constructor
  · intro found
    obtain ⟨ending, h⟩ := Option.isSome_iff_exists.1 found
    exact ⟨ending, readEnding?_eq_some h⟩
  · intro readable
    obtain ⟨⟨text, trail⟩, ⟨oneLine, blank⟩, rfl⟩ := readable
    cases text with
    | nil => exact isSome_readEnding?_of_trailing blank
    | cons c text =>
      have oneLine' : '\n' ∉ c :: (text ++ trail) := by
        intro member
        rcases List.mem_append.1 (show '\n' ∈ c :: text ++ trail from member) with h | h
        · exact oneLine h
        · rcases blank '\n' h with h | h <;> cases h
      show (readEnding? (' ' :: c :: (text ++ trail))).isSome = true
      rw [readEnding?_text, if_neg oneLine']
      rfl

theorem readable_of_trailing {text : List Char} (blank : ∀ c ∈ text, c = ' ' ∨ c = '\t') :
    Readable text := isSome_readEnding?_iff.1 (isSome_readEnding?_of_trailing blank)

theorem Readable.blank {text : List Char} (readable : Readable text)
    (start : ∀ rest, text ≠ ' ' :: rest) : ∀ c ∈ text, c = ' ' ∨ c = '\t' := by
  obtain ⟨⟨text, trail⟩, ⟨-, blank⟩, rfl⟩ := readable
  cases text with
  | nil => exact blank
  | cons c text => exact absurd rfl (start _)

/-! ## The attribute pairs -/

theorem attributeRun_cons (pair : Pair) (pairs : List Pair) (rest : List Char) :
    attributeRun (pair :: pairs) ++ rest =
      ' ' :: (pair.written ++ (attributeRun pairs ++ rest)) := by
  simp [attributeRun]

/-- What is read as pairs and end is written that way, and the end is read from what stands
behind the pairs. -/
theorem readTail?_eq_some {text : List Char} {tail : Tail} (h : readTail? text = some tail) :
    (∀ pair ∈ tail.pairs, pair.WellFormed) ∧
      ∃ rest, attributeRun tail.pairs ++ rest = text ∧ readEnding? rest = some tail.ending := by
  -- a pair leaves a shorter text to be read
  induction size : text.length using Nat.strongRecOn generalizing text tail with
  | ind n ih =>
    have ended (h : (readEnding? text).map (Tail.mk []) = some tail) :
        (∀ pair ∈ tail.pairs, pair.WellFormed) ∧
          ∃ rest, attributeRun tail.pairs ++ rest = text ∧ readEnding? rest = some tail.ending := by
      obtain ⟨ending, found, rfl⟩ := Option.map_eq_some_iff.1 h
      exact ⟨by simp, text, rfl, found⟩
    by_cases start : ∃ rest, text = ' ' :: rest
    · obtain ⟨rest, rfl⟩ := start
      rw [readTail?_space, Option.or_eq_some_iff] at h
      rcases h with h | ⟨-, h⟩
      · obtain ⟨⟨pair, behind⟩, member, h⟩ := List.exists_of_findSome?_eq_some h
        obtain ⟨tail', found, rfl⟩ := Option.map_eq_some_iff.1 h
        have shorter := Pair.length_lt_of_mem_leading member
        dsimp only at found shorter
        obtain ⟨rfl, wellFormed⟩ := Pair.mem_leading.1 member
        obtain ⟨others, ending, split, readEnding⟩ :=
          ih behind.length (by simp only [List.length_cons] at size; omega) found rfl
        refine ⟨?_, ending, ?_, readEnding⟩
        · intro other member
          rcases List.mem_cons.1 member with rfl | member
          · exact wellFormed
          · exact others other member
        · rw [← split]
          exact attributeRun_cons ..
      · exact ended h
    · rw [readTail?_of_not_space fun rest h => start ⟨rest, h⟩] at h
      exact ended h

/-- The search finds pairs wherever there are some to be found. -/
theorem isSome_readTail?_of_readable {pairs : List Pair} {rest : List Char}
    (wellFormed : ∀ pair ∈ pairs, pair.WellFormed) (readable : Readable rest) :
    (readTail? (attributeRun pairs ++ rest)).isSome = true := by
  induction pairs with
  | nil =>
    -- pairs may be found in what is meant as text, but the end is tried after them
    have ended := isSome_readEnding?_iff.2 readable
    show (readTail? rest).isSome = true
    by_cases start : ∃ text, rest = ' ' :: text
    · obtain ⟨text, rfl⟩ := start
      rw [readTail?_space, Option.isSome_or, Option.isSome_map, ended, Bool.or_true]
    · rw [readTail?_of_not_space fun text h => start ⟨text, h⟩, Option.isSome_map, ended]
  | cons pair pairs ih =>
    have others : (readTail? (attributeRun pairs ++ rest)).isSome = true := by
      apply ih
      intro other member
      exact wellFormed other (List.mem_cons_of_mem _ member)
    have member : (pair, attributeRun pairs ++ rest) ∈
        Pair.leading (pair.written ++ (attributeRun pairs ++ rest)) :=
      Pair.mem_leading.2 ⟨rfl, wellFormed pair (by simp)⟩
    rw [attributeRun_cons, readTail?_space, Option.isSome_or, Bool.or_eq_true]
    left
    refine List.findSome?_isSome_iff.2 ⟨_, member, ?_⟩
    rw [Option.isSome_map, others]

theorem isSome_readTail?_iff {text : List Char} :
    (readTail? text).isSome = true ↔ Finishable text := by
  constructor
  · intro found
    obtain ⟨tail, h⟩ := Option.isSome_iff_exists.1 found
    obtain ⟨wellFormed, rest, split, readEnding⟩ := readTail?_eq_some h
    have readable : Readable rest := isSome_readEnding?_iff.1 (by rw [readEnding]; rfl)
    exact ⟨_, rest, wellFormed, readable, split⟩
  · intro finishable
    obtain ⟨pairs, rest, wellFormed, readable, rfl⟩ := finishable
    exact isSome_readTail?_of_readable wellFormed readable

/-! ## What a greedy part leaves -/

theorem takeWhile_append_of_stop {α : Type} {p : α → Bool} {first rest : List α}
    (more : ∀ c ∈ first, p c = true) (stop : ∀ c, rest.head? = some c → p c = false) :
    (first ++ rest).takeWhile p = first ∧ (first ++ rest).dropWhile p = rest := by
  rw [List.takeWhile_append_of_pos more, List.dropWhile_append_of_pos more]
  cases rest with
  | nil => simp
  | cons c rest => simp [stop c rfl]

theorem Finishable.space_or_blank {text : List Char} (finishable : Finishable text) :
    (∃ rest, text = ' ' :: rest) ∨ ∀ c ∈ text, c = ' ' ∨ c = '\t' := by
  obtain ⟨pairs, rest, -, readable, rfl⟩ := finishable
  cases pairs with
  | nil =>
    by_cases start : ∃ text, rest = ' ' :: text
    · exact .inl start
    · right
      apply readable.blank
      intro text h
      exact start ⟨text, h⟩
  | cons pair pairs => exact .inl ⟨_, attributeRun_cons pair pairs rest⟩

theorem finishable_of_blank {text : List Char} (blank : ∀ c ∈ text, c = ' ' ∨ c = '\t') :
    Finishable text := ⟨[], text, by simp, readable_of_trailing blank, rfl⟩

/-- A part that stops at spaces takes only blanks from a text that can be finished. -/
theorem Finishable.dropWhile {text : List Char} (finishable : Finishable text)
    {more : Char → Bool} (stops : more ' ' = false) : Finishable (text.dropWhile more) := by
  rcases finishable.space_or_blank with ⟨rest, rfl⟩ | blank
  · rwa [List.dropWhile_cons_of_neg (by simp [stops])]
  · apply finishable_of_blank
    intro c member
    exact blank c ((List.dropWhile_sublist more).mem member)

theorem Finishable.head {text : List Char} (finishable : Finishable text) {c : Char}
    (head : text.head? = some c) : c = ' ' ∨ c = '\t' := by
  rcases finishable.space_or_blank with ⟨rest, rfl⟩ | blank
  · exact .inl (Option.some.inj head).symm
  · exact blank c (List.mem_of_mem_head? head)

/-! ## The class run -/

def ClassedFinishable (text : List Char) : Prop :=
  ∃ classRun rest, (classRun = [] ∨ IsClassRun classRun) ∧ Finishable rest ∧
    classRun ++ rest = text

/-- The class run that is read is missing, or goes from a dot to the next space. -/
theorem readClassRun?_eq_some {text run rest : List Char}
    (h : readClassRun? text = some (run, rest)) :
    (text.head? ≠ some '.' ∧ run = [] ∧ rest = text) ∨
      ∃ classes, text = '.' :: classes ∧ classes.takeWhile (· ≠ ' ') ≠ [] ∧
        run = '.' :: classes.takeWhile (· ≠ ' ') ∧ rest = classes.dropWhile (· ≠ ' ') := by
  by_cases dot : text.head? = some '.'
  · obtain ⟨classes, rfl⟩ := List.head?_eq_some_iff.1 dot
    rw [readClassRun?_dot] at h
    split at h
    · cases h
    · next some_class =>
      cases h
      exact .inr ⟨classes, rfl, some_class, rfl, rfl⟩
  · rw [readClassRun?_of_not_dot dot] at h
    cases h
    exact .inl ⟨dot, rfl, rfl⟩

theorem isClassRun_of_readClassRun? {text run rest : List Char}
    (h : readClassRun? text = some (run, rest)) :
    (run = [] ∨ IsClassRun run) ∧ run ++ rest = text := by
  rcases readClassRun?_eq_some h with ⟨-, rfl, rfl⟩ | ⟨classes, rfl, some_class, rfl, rfl⟩
  · exact ⟨.inl rfl, rfl⟩
  · refine ⟨.inr ⟨_, rfl, some_class, ?_⟩, ?_⟩
    · intro member
      simpa using List.all_eq_true.1 List.all_takeWhile _ member
    · rw [List.cons_append, List.takeWhile_append_dropWhile]

/-- Taking the class run as long as it goes leaves a text that can be finished, if there is any
way to read the text. -/
theorem ClassedFinishable.exists_readClassRun? {text : List Char}
    (classed : ClassedFinishable text) :
    ∃ run rest, readClassRun? text = some (run, rest) ∧ Finishable rest := by
  obtain ⟨classRun, rest, rfl | ⟨classes, rfl, some_class, no_space⟩, finishable, rfl⟩ := classed
  · have no_dot : rest.head? ≠ some '.' := by
      intro dot
      rcases finishable.head dot with h | h <;> cases h
    exact ⟨[], rest, readClassRun?_of_not_dot no_dot, finishable⟩
  · have more : ∀ c ∈ classes, (decide (c ≠ ' ')) = true := by
      intro c member
      rw [decide_eq_true_eq]
      rintro rfl
      exact no_space member
    have taken : (classes ++ rest).takeWhile (· ≠ ' ') ≠ [] := by
      rw [List.takeWhile_append_of_pos more]
      exact List.append_ne_nil_of_left_ne_nil some_class _
    refine ⟨'.' :: (classes ++ rest).takeWhile (· ≠ ' '), rest.dropWhile (· ≠ ' '), ?_,
      finishable.dropWhile (by simp)⟩
    rw [List.cons_append, readClassRun?_dot, if_neg taken, List.dropWhile_append_of_pos more]

theorem ClassedFinishable.dropWhile {text : List Char} (classed : ClassedFinishable text)
    {more : Char → Bool} (space : more ' ' = false) (dot : more '.' = false) :
    ClassedFinishable (text.dropWhile more) := by
  obtain ⟨classRun, rest, rfl | ⟨classes, rfl, some_class⟩, finishable, rfl⟩ := classed
  · exact ⟨[], _, .inl rfl, finishable.dropWhile space, rfl⟩
  · refine ⟨_, rest, .inr ⟨classes, rfl, some_class⟩, finishable, ?_⟩
    rw [List.cons_append, List.dropWhile_cons_of_neg (by simp [dot])]

theorem ClassedFinishable.head {text : List Char} (classed : ClassedFinishable text) {c : Char}
    (head : text.head? = some c) : c = '.' ∨ c = ' ' ∨ c = '\t' := by
  obtain ⟨classRun, rest, rfl | ⟨classes, rfl, -⟩, finishable, rfl⟩ := classed
  · exact .inr (finishable.head head)
  · exact .inl (Option.some.inj head).symm

/-! ## The id -/

def isIdChar (c : Char) : Bool := c ≠ ' ' && c ≠ '.'

theorem readId?_eq_some {text id rest : List Char} (h : readId? text = some (id, rest)) :
    (text.head? ≠ some '#' ∧ id = [] ∧ rest = text) ∨
      ∃ more, text = '#' :: more ∧ id ≠ [] ∧ id = more.takeWhile isIdChar ∧
        rest = more.dropWhile isIdChar := by
  by_cases mark : text.head? = some '#'
  · obtain ⟨more, rfl⟩ := List.head?_eq_some_iff.1 mark
    rw [readId?_mark] at h
    split at h
    · cases h
    · next some_id =>
      cases h
      exact .inr ⟨more, rfl, some_id, rfl, rfl⟩
  · rw [readId?_of_not_mark mark] at h
    cases h
    exact .inl ⟨mark, rfl, rfl⟩

theorem valid_of_readId? {text id rest : List Char} (h : readId? text = some (id, rest)) :
    (∀ c ∈ id, c ≠ ' ' ∧ c ≠ '.') ∧ marked '#' id ++ rest = text := by
  rcases readId?_eq_some h with ⟨-, rfl, rfl⟩ | ⟨more, rfl, some_id, rfl, rfl⟩
  · exact ⟨by simp, rfl⟩
  · constructor
    · intro c member
      simpa [isIdChar] using List.all_eq_true.1 List.all_takeWhile c member
    · rw [marked, if_neg some_id, List.cons_append, List.takeWhile_append_dropWhile]

/-- Taking the id as long as it goes leaves a text that can be read from the class run on. -/
theorem ClassedFinishable.exists_readId? {id rest : List Char} (classed : ClassedFinishable rest)
    (valid : ∀ c ∈ id, c ≠ ' ' ∧ c ≠ '.') :
    ∃ id' rest', readId? (marked '#' id ++ rest) = some (id', rest') ∧
      ClassedFinishable rest' := by
  by_cases missing : id = []
  · subst missing
    have no_mark : rest.head? ≠ some '#' := by
      intro mark
      rcases classed.head mark with h | h | h <;> cases h
    exact ⟨[], rest, readId?_of_not_mark no_mark, classed⟩
  · have more : ∀ c ∈ id, isIdChar c = true := by
      intro c member
      simpa [isIdChar] using valid c member
    have taken : (id ++ rest).takeWhile isIdChar ≠ [] := by
      rw [List.takeWhile_append_of_pos more]
      exact List.append_ne_nil_of_left_ne_nil missing _
    refine ⟨(id ++ rest).takeWhile isIdChar, rest.dropWhile isIdChar, ?_,
      classed.dropWhile rfl rfl⟩
    rw [marked, if_neg missing, List.cons_append, readId?_mark]
    show (if (id ++ rest).takeWhile isIdChar = [] then none
      else some ((id ++ rest).takeWhile isIdChar, (id ++ rest).dropWhile isIdChar)) = _
    rw [if_neg taken, List.dropWhile_append_of_pos more]

theorem ClassedFinishable.head_mark {id rest : List Char} (classed : ClassedFinishable rest)
    {c : Char} (head : (marked '#' id ++ rest).head? = some c) :
    c = '#' ∨ c = '.' ∨ c = ' ' ∨ c = '\t' := by
  by_cases missing : id = []
  · subst missing
    exact .inr (classed.head head)
  · rw [marked, if_neg missing] at head
    exact .inl (Option.some.inj head).symm

/-! ## The tag -/

theorem isAlphanum_of_isShorthandTag {tag : List Char}
    (known : isShorthandTag (String.ofList tag) = true) :
    (∃ c rest, tag = c :: rest ∧ c.isAlpha = true) ∧ ∀ c ∈ tag, c.isAlphanum = true := by
  have all : ∀ name ∈ shorthandTags,
      (name.toList.head?.any Char.isAlpha && name.toList.all Char.isAlphanum) = true := by
    decide +kernel
  have this := all _ (List.contains_iff_mem.1 known)
  rw [String.toList_ofList, Bool.and_eq_true, List.all_eq_true] at this
  refine ⟨?_, this.2⟩
  cases tag with
  | nil => exact absurd this.1 (by simp)
  | cons c rest => exact ⟨c, rest, rfl, by simpa using this.1⟩

theorem readTag?_eq_some {text tag rest : List Char} (h : readTag? text = some (tag, rest)) :
    tag = text.takeWhile Char.isAlphanum ∧ rest = text.dropWhile Char.isAlphanum := by
  unfold readTag? at h
  split at h
  · split at h
    · cases h
      exact ⟨rfl, rfl⟩
    · cases h
  · cases h

theorem readTag?_append {tag rest : List Char}
    (known : isShorthandTag (String.ofList tag) = true)
    (stop : ∀ c, rest.head? = some c → c.isAlphanum = false) :
    readTag? (tag ++ rest) = some (tag, rest) := by
  obtain ⟨⟨c, others, rfl, letter⟩, more⟩ := isAlphanum_of_isShorthandTag known
  obtain ⟨taken, left⟩ := takeWhile_append_of_stop more stop
  rw [List.cons_append, readTag?, if_pos letter, ← List.cons_append, taken, left]

/-! ## The whole line -/

/-- What stands on the line behind the attribute pairs; the next definitions go back from there,
part by part. -/
def Reading.behindPairs (reading : Reading) : List Char := marked ' ' reading.text ++ reading.trail

def Reading.behindClassRun (reading : Reading) : List Char :=
  attributeRun reading.pairs ++ reading.behindPairs

def Reading.behindId (reading : Reading) : List Char :=
  reading.classRun ++ reading.behindClassRun

def Reading.behindTag (reading : Reading) : List Char :=
  marked '#' reading.id ++ reading.behindId

theorem Reading.written_eq (reading : Reading) :
    reading.written =
      List.replicate reading.depth ' ' ++ (reading.tag ++ reading.behindTag) := by
  simp only [Reading.written, behindTag, behindId, behindClassRun, behindPairs, List.append_assoc]

theorem takeWhile_space (line : List Char) :
    line.takeWhile (· = ' ') = List.replicate (line.takeWhile (· = ' ')).length ' ' := by
  refine List.eq_replicate_iff.2 ⟨rfl, ?_⟩
  intro c member
  simpa using List.all_eq_true.1 List.all_takeWhile c member

/-- A line that is read is read part by part, each from what stands behind the part before it. -/
theorem parts_of_read? {line : List Char} {reading : Reading} (h : read? line = some reading) :
    reading.depth = (line.takeWhile (· = ' ')).length ∧
      readTag? (line.dropWhile (· = ' ')) = some (reading.tag, reading.behindTag) ∧
      readId? reading.behindTag = some (reading.id, reading.behindId) ∧
      readClassRun? reading.behindId = some (reading.classRun, reading.behindClassRun) ∧
      readTail? reading.behindClassRun =
        some ⟨reading.pairs, ⟨reading.text, reading.trail⟩⟩ ∧
      readEnding? reading.behindPairs = some ⟨reading.text, reading.trail⟩ := by
  obtain ⟨tag, afterTag, id, afterId, classRun, afterClassRun, tail, readTag, readId, readClassRun,
    readTail, rfl⟩ := read?_eq_some.1 h
  obtain ⟨-, rest, rfl, readEnding⟩ := readTail?_eq_some readTail
  -- what stands behind a part is written as the parts that follow it
  obtain rfl : marked ' ' tail.ending.text ++ tail.ending.trail = rest :=
    (readEnding?_eq_some readEnding).2
  obtain rfl := (isClassRun_of_readClassRun? readClassRun).2
  obtain rfl := (valid_of_readId? readId).2
  exact ⟨rfl, readTag, readId, readClassRun, readTail, readEnding⟩

theorem written_of_read? {line : List Char} {reading : Reading} (h : read? line = some reading) :
    reading.written = line := by
  obtain ⟨depth, readTag, -⟩ := parts_of_read? h
  obtain ⟨tag, behind⟩ := readTag?_eq_some readTag
  rw [Reading.written_eq, depth, ← takeWhile_space, tag, behind, List.takeWhile_append_dropWhile,
    List.takeWhile_append_dropWhile]

theorem wellFormed_of_read? {line : List Char} {reading : Reading} (h : read? line = some reading)
    (known : isShorthandTag (String.ofList reading.tag) = true) : reading.WellFormed := by
  obtain ⟨-, -, readId, readClassRun, readTail, readEnding⟩ := parts_of_read? h
  obtain ⟨⟨oneLine, blank⟩, -⟩ := readEnding?_eq_some readEnding
  exact ⟨known, (valid_of_readId? readId).1, (isClassRun_of_readClassRun? readClassRun).1,
    (readTail?_eq_some readTail).1, oneLine, blank⟩

theorem Reading.WellFormed.classedFinishable {reading : Reading} (wellFormed : reading.WellFormed) :
    ClassedFinishable reading.behindId :=
  ⟨reading.classRun, reading.behindClassRun, wellFormed.classRun,
    ⟨reading.pairs, reading.behindPairs, wellFormed.pairs,
      ⟨⟨reading.text, reading.trail⟩, ⟨wellFormed.text, wellFormed.trail⟩, rfl⟩, rfl⟩, rfl⟩

/-- The indentation is all that stands in front of the tag, which starts with a letter. -/
theorem Reading.WellFormed.indent {reading : Reading} (wellFormed : reading.WellFormed) :
    (reading.written.takeWhile (· = ' ')).length = reading.depth ∧
      reading.written.dropWhile (· = ' ') = reading.tag ++ reading.behindTag := by
  obtain ⟨⟨c, others, tag, letter⟩, -⟩ := isAlphanum_of_isShorthandTag wellFormed.tag
  have not_space : c ≠ ' ' := by
    rintro rfl
    cases letter
  have spaces : ∀ c ∈ List.replicate reading.depth ' ', decide (c = ' ') = true := by
    intro c member
    simp [List.eq_of_mem_replicate member]
  rw [Reading.written_eq, List.takeWhile_append_of_pos spaces,
    List.dropWhile_append_of_pos spaces, tag]
  simp [not_space]

/-- A line that has a well-formed reading is read, with its depth and its tag. -/
theorem Reading.WellFormed.exists_read? {reading : Reading} (wellFormed : reading.WellFormed) :
    ∃ found, read? reading.written = some found ∧ found.depth = reading.depth ∧
      found.tag = reading.tag := by
  have classed := wellFormed.classedFinishable
  have indent := wellFormed.indent
  have readTag : readTag? (reading.tag ++ reading.behindTag) =
      some (reading.tag, reading.behindTag) := by
    apply readTag?_append wellFormed.tag
    intro c head
    rcases classed.head_mark head with rfl | rfl | rfl | rfl <;> rfl
  obtain ⟨id, _, readId, classed'⟩ := classed.exists_readId? wellFormed.id
  obtain ⟨classRun, _, readClassRun, finishable⟩ := classed'.exists_readClassRun?
  obtain ⟨tail, readTail⟩ := Option.isSome_iff_exists.1 (isSome_readTail?_iff.2 finishable)
  refine ⟨_, read?_eq_some.2 ⟨reading.tag, reading.behindTag, id, _, classRun, _, tail, ?_, readId,
    readClassRun, readTail, rfl⟩, indent.1, rfl⟩
  rw [indent.2, readTag]

/-! ## The kind of a line -/

theorem classify_of_read? {line : String} {reading : Reading}
    (h : read? line.toList = some reading)
    (known : isShorthandTag (String.ofList reading.tag) = true) :
    classify line = reading.kind := by
  rw [classify, h]
  exact if_pos known

/-- A line that is not unrecognized has been read, and its tag is known. -/
theorem exists_read?_of_placed? {line : String} {depth : Nat} {fields : Fields}
    (h : (classify line).placed? = some (depth, fields)) :
    ∃ reading, read? line.toList = some reading ∧
      isShorthandTag (String.ofList reading.tag) = true ∧ depth = reading.depth ∧
      fields = reading.fields := by
  unfold classify at h
  split at h
  · next reading found =>
    split at h
    · next known =>
      refine ⟨reading, found, known, ?_⟩
      unfold Reading.kind at h
      split at h
      · next root =>
        cases h
        exact ⟨root.symm, rfl⟩
      · cases h
        exact ⟨rfl, rfl⟩
    · cases h
  · cases h

/-- A shorthand line has a tag, so it is not blank. -/
theorem isBlank_of_placed? {line : String} {depth : Nat} {fields : Fields}
    (h : (classify line).placed? = some (depth, fields)) : Text.isBlank line = false := by
  obtain ⟨reading, read, known, -⟩ := exists_read?_of_placed? h
  obtain ⟨⟨c, rest, tag, -⟩, alphanum⟩ := isAlphanum_of_isShorthandTag known
  have member : c ∈ reading.tag := by simp [tag]
  have on_line : c ∈ line.toList := by
    rw [← written_of_read? read, Reading.written_eq]
    simp [member]
  rw [Text.isBlank, List.all_eq_false]
  exact ⟨c, on_line, by simp [Text.isBlankChar_of_isAlphanum (alphanum c member)]⟩

theorem classify_of_isBlank {line : String} (blank : Text.isBlank line = true) :
    classify line = .unrecognized := by
  have content {depth : Nat} {fields : Fields}
      (placed : (classify line).placed? = some (depth, fields)) : False := by
    rw [isBlank_of_placed? placed] at blank
    cases blank
  cases kind : classify line with
  | unrecognized => rfl
  | root fields => exact (content (by rw [kind]; rfl)).elim
  | nested depth fields => exact (content (by rw [kind]; rfl)).elim

/-- **A line is shorthand exactly when the grammar says so**, and then its depth and its tag are
those of every way to write it by the grammar. -/
theorem classify_iff_wellFormed (line : String) :
    (((∃ fields, classify line = .root fields) ∨
        ∃ depth fields, classify line = .nested depth fields) ↔
      ∃ reading : Reading, reading.WellFormed ∧ reading.written = line.toList) ∧
    ∀ reading : Reading, reading.WellFormed → reading.written = line.toList →
      ∃ fields, fields.tag = String.ofList reading.tag ∧
        classify line = if reading.depth = 0 then .root fields else .nested reading.depth fields := by
  have complete (reading : Reading) (wellFormed : reading.WellFormed)
      (written : reading.written = line.toList) : ∃ fields,
        fields.tag = String.ofList reading.tag ∧
          classify line =
            if reading.depth = 0 then .root fields else .nested reading.depth fields := by
    obtain ⟨found, read, depth, tag⟩ := wellFormed.exists_read?
    rw [written] at read
    refine ⟨found.fields, congrArg String.ofList tag, ?_⟩
    rw [classify_of_read? read (by rw [tag]; exact wellFormed.tag), Reading.kind, depth]
  refine ⟨⟨?_, ?_⟩, complete⟩
  · intro shorthand
    obtain ⟨depth, fields, placed⟩ :
        ∃ depth fields, (classify line).placed? = some (depth, fields) := by
      rcases shorthand with ⟨fields, kind⟩ | ⟨depth, fields, kind⟩
      · exact ⟨0, fields, by rw [kind]; rfl⟩
      · exact ⟨depth, fields, by rw [kind]; rfl⟩
    obtain ⟨reading, read, known, -⟩ := exists_read?_of_placed? placed
    exact ⟨reading, wellFormed_of_read? read known, written_of_read? read⟩
  · intro grammatical
    obtain ⟨reading, wellFormed, written⟩ := grammatical
    obtain ⟨fields, -, kind⟩ := complete reading wellFormed written
    by_cases root : reading.depth = 0
    · exact .inl ⟨fields, by rw [kind, if_pos root]⟩
    · exact .inr ⟨reading.depth, fields, by rw [kind, if_neg root]⟩

end Shorthand.Line
