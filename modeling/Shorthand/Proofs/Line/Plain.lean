import Shorthand.Proofs.Attribute.Pair
import Shorthand.Proofs.Line.Parts

/-!
# Plain readings

A line can often be read in several ways. A reading is plain when nothing in its line competes with
it: then the line that is written from it is read back part by part (`read?_written`). The only
place where the reader has a choice is the key of an attribute pair. A longer key would have to
take the closing quote of a value for an opening one, and the value it opens would end at the next
quote, in front of the next value or inside the text; behind it the line cannot be read on
(`readTail?_of_swallowed`).
-/

namespace Shorthand.Line

open Attribute (Pair)

/-! ## The pairs and the text -/

/-- If an item succeeds and no other one does, a search finds what that item gives. -/
theorem findSome?_of_unique {α β : Type} {items : List α} {f : α → Option β} {item : α}
    {result : β} (member : item ∈ items) (found : f item = some result)
    (unique : ∀ other ∈ items, (f other).isSome = true → other = item) :
    items.findSome? f = some result := by
  have success : (items.findSome? f).isSome = true :=
    List.findSome?_isSome_iff.2 ⟨item, member, by rw [found]; rfl⟩
  obtain ⟨first, h⟩ := Option.isSome_iff_exists.1 success
  obtain ⟨other, other_member, other_found⟩ := List.exists_of_findSome?_eq_some h
  obtain rfl := unique other other_member (by rw [other_found]; rfl)
  rw [h, ← other_found, found]

theorem leading_eq_nil {text : List Char} (no_opening : ¬ ['=', '"'] <:+: text) :
    Pair.leading text = [] := by
  rw [List.eq_nil_iff_forall_not_mem]
  intro found member
  obtain ⟨written, -⟩ := Pair.mem_leading.1 (show (found.1, found.2) ∈ _ from member)
  refine no_opening ⟨found.1.key, found.1.value ++ '"' :: found.2, ?_⟩
  rw [written, Pair.written]
  simp only [List.append_assoc, List.cons_append, List.nil_append]

theorem head_behind (pairs : List Pair) (text : List Char) {c : Char}
    (head : (attributeRun pairs ++ marked ' ' text).head? = some c) : c = ' ' := by
  cases pairs with
  | cons pair pairs =>
    rw [attributeRun_cons] at head
    exact (Option.some.inj head).symm
  | nil =>
    cases text with
    | nil => cases head
    | cons first text => exact (Option.some.inj head).symm

/-- When a value has swallowed what stands in front of the next quote, the line cannot be read on:
behind that quote comes the value of a pair, and that does not start with a space. -/
theorem readTail?_of_swallowed {pairs : List Pair} {text value behind : List Char}
    (plain : ∀ pair ∈ pairs, pair.Plain) (last : pairs = [] → '"' ∉ text)
    (no_quote : '"' ∉ value)
    (split : attributeRun pairs ++ marked ' ' text = value ++ '"' :: behind) :
    readTail? behind = none := by
  cases pairs with
  | nil =>
    have quote : '"' ∈ marked ' ' text := by
      rw [show marked ' ' text = value ++ '"' :: behind from split]
      simp
    unfold marked at quote
    by_cases missing : text = []
    · simp [missing] at quote
    · simp [missing, last rfl] at quote
  | cons pair pairs =>
    obtain ⟨⟨-, -, some_value, -⟩, no_quote_key, no_space⟩ := plain pair List.mem_cons_self
    rw [attributeRun_cons, Pair.written] at split
    have split' : (' ' :: pair.key ++ ['=']) ++
        '"' :: (pair.value ++ '"' :: (attributeRun pairs ++ marked ' ' text)) =
          value ++ '"' :: behind := by
      rw [← split]
      simp
    have no_quote' : '"' ∉ ' ' :: pair.key ++ ['='] := by simp [no_quote_key]
    obtain ⟨-, rfl⟩ := Text.append_cons_inj no_quote' no_quote split'
    have not_space (rest : List Char) :
        pair.value ++ '"' :: (attributeRun pairs ++ marked ' ' text) ≠ ' ' :: rest := by
      intro same
      have head := congrArg List.head? same
      rw [List.head?_append_of_ne_nil _ some_value] at head
      exact no_space head
    rw [readTail?_of_not_space not_space,
      readEnding?_of_not_text fun c rest => not_space (c :: rest), if_neg, Option.map_none]
    simp [isTrailing]

/-- A text that opens no pair is read as it is. -/
theorem readTail?_of_no_opening {text : List Char} (no_opening : ¬ ['=', '"'] <:+: text)
    (oneLine : '\n' ∉ text) : readTail? (marked ' ' text) = some ⟨[], ⟨text, []⟩⟩ := by
  cases text with
  | nil =>
    rw [show marked ' ' [] = [] from rfl, readTail?_of_not_space (by simp)]
    rfl
  | cons c text =>
    show readTail? (' ' :: c :: text) = _
    rw [readTail?_space, leading_eq_nil no_opening, readEnding?_text, if_neg oneLine]
    rfl

/-- Of the pairs at the start of the run only the first one leaves something that can be read. -/
theorem eq_of_isSome_readTail? {pair other : Pair} {pairs : List Pair} {text behind : List Char}
    (plain : ∀ each ∈ pair :: pairs, each.Plain)
    (last : pairs = [] → pair.value.getLast? = some '=' → '"' ∉ text)
    (member : (other, behind) ∈
      Pair.leading (pair.written ++ (attributeRun pairs ++ marked ' ' text)))
    (success : (readTail? behind).isSome) :
    (other, behind) = (pair, attributeRun pairs ++ marked ' ' text) := by
  obtain ⟨same, wellFormed⟩ := Pair.mem_leading.1 member
  rcases Pair.eq_or_swallowed (plain pair List.mem_cons_self) wellFormed
    (fun c => head_behind pairs text) same.symm with ⟨rfl, rfl⟩ | ⟨equals, swallowed⟩
  · rfl
  · -- a value that swallowed the start of the next pair stops inside a quoted value
    have others : ∀ each ∈ pairs, each.Plain := by
      intro each each_member
      exact plain each (List.mem_cons_of_mem pair each_member)
    obtain ⟨-, -, -, no_quote⟩ := wellFormed
    rw [readTail?_of_swallowed others (fun missing => last missing equals) no_quote
      swallowed] at success
    cases success

/-- Plain pairs with a text that opens no pair are read as they are. -/
theorem readTail?_of_plain {pairs : List Pair} {text : List Char}
    (plain : ∀ pair ∈ pairs, pair.Plain) (no_opening : ¬ ['=', '"'] <:+: text)
    (oneLine : '\n' ∉ text)
    (last : ∀ pair, pairs.getLast? = some pair → pair.value.getLast? = some '=' → '"' ∉ text) :
    readTail? (attributeRun pairs ++ marked ' ' text) = some ⟨pairs, ⟨text, []⟩⟩ := by
  induction pairs with
  | nil => exact readTail?_of_no_opening no_opening oneLine
  | cons pair pairs ih =>
    have last' (other : Pair) (is_last : pairs.getLast? = some other) :
        other.value.getLast? = some '=' → '"' ∉ text := by
      apply last other
      rw [List.getLast?_cons, is_last]
      rfl
    have rest := ih (fun other member => plain other (List.mem_cons_of_mem pair member)) last'
    have member : (pair, attributeRun pairs ++ marked ' ' text) ∈
        Pair.leading (pair.written ++ (attributeRun pairs ++ marked ' ' text)) :=
      Pair.mem_leading.2 ⟨rfl, (plain pair List.mem_cons_self).wellFormed⟩
    have found := findSome?_of_unique
      (f := fun found => (readTail? found.2).map (Tail.cons found.1)) member
      (congrArg (Option.map (Tail.cons pair)) rest) ?unique
    case unique =>
      rintro ⟨other, behind⟩ member' success
      rw [Option.isSome_map] at success
      refine eq_of_isSome_readTail? plain ?_ member' success
      rintro rfl
      exact last pair rfl
    rw [attributeRun_cons, readTail?_space, found]
    rfl

/-! ## The whole line -/

/-- A reading with plain pairs and no trailing blanks. The text opens no pair, and where the last
value ends with an equals sign the text holds no quote at which a swallowing value could end. -/
structure Reading.Plain (reading : Reading) : Prop where
  wellFormed : reading.WellFormed
  pairs : ∀ pair ∈ reading.pairs, pair.Plain
  text : ¬ ['=', '"'] <:+: reading.text
  last : ∀ pair, reading.pairs.getLast? = some pair → pair.value.getLast? = some '=' →
    '"' ∉ reading.text
  trail : reading.trail = []

theorem readId?_append {id rest : List Char} (valid : ∀ c ∈ id, c ≠ ' ' ∧ c ≠ '.')
    (stop : ∀ c, rest.head? = some c → c = '.' ∨ c = ' ') :
    readId? (marked '#' id ++ rest) = some (id, rest) := by
  by_cases missing : id = []
  · subst missing
    have no_mark : rest.head? ≠ some '#' := by
      intro mark
      rcases stop '#' mark with h | h <;> cases h
    exact readId?_of_not_mark no_mark
  · have more : ∀ c ∈ id, isIdChar c = true := by
      intro c member
      simpa [isIdChar] using valid c member
    have stop' (c : Char) (head : rest.head? = some c) : isIdChar c = false := by
      rcases stop c head with rfl | rfl <;> rfl
    obtain ⟨taken, left⟩ := takeWhile_append_of_stop more stop'
    rw [marked, if_neg missing, List.cons_append, readId?_mark]
    show (if (id ++ rest).takeWhile isIdChar = [] then none
      else some ((id ++ rest).takeWhile isIdChar, (id ++ rest).dropWhile isIdChar)) = _
    rw [taken, left, if_neg missing]

theorem readClassRun?_append {run rest : List Char} (valid : run = [] ∨ IsClassRun run)
    (stop : ∀ c, rest.head? = some c → c = ' ') :
    readClassRun? (run ++ rest) = some (run, rest) := by
  rcases valid with rfl | ⟨classes, rfl, some_class, no_space⟩
  · have no_dot : rest.head? ≠ some '.' := by
      intro dot
      cases stop '.' dot
    exact readClassRun?_of_not_dot no_dot
  · have more : ∀ c ∈ classes, decide (c ≠ ' ') = true := by
      intro c member
      rw [decide_eq_true_eq]
      rintro rfl
      exact no_space member
    have stop' (c : Char) (head : rest.head? = some c) : decide (c ≠ ' ') = false := by
      rw [stop c head]
      rfl
    obtain ⟨taken, left⟩ := takeWhile_append_of_stop more stop'
    rw [List.cons_append, readClassRun?_dot, taken, left, if_neg some_class]

/-- **A plain reading is read back** from the line that is written from it. -/
theorem read?_written {reading : Reading} (plain : reading.Plain) :
    read? reading.written = some reading := by
  obtain ⟨wellFormed, pairs, text, last, no_trail⟩ := plain
  have indent := wellFormed.indent
  have behindPairs : reading.behindPairs = marked ' ' reading.text := by
    rw [Reading.behindPairs, no_trail, List.append_nil]
  have stop : ∀ c, reading.behindClassRun.head? = some c → c = ' ' := by
    intro c head
    rw [Reading.behindClassRun, behindPairs] at head
    exact head_behind reading.pairs reading.text head
  have stop' : ∀ c, reading.behindId.head? = some c → c = '.' ∨ c = ' ' := by
    intro c head
    rw [Reading.behindId] at head
    rcases wellFormed.classRun with missing | ⟨classes, run, -⟩
    · rw [missing] at head
      exact .inr (stop c head)
    · rw [run] at head
      exact .inl (Option.some.inj head).symm
  have readTag : readTag? (reading.written.dropWhile (· = ' ')) =
      some (reading.tag, reading.behindTag) := by
    rw [indent.2]
    apply readTag?_append wellFormed.tag
    intro c head
    rcases wellFormed.classedFinishable.head_mark head with rfl | rfl | rfl | rfl <;> rfl
  have readTail : readTail? reading.behindClassRun =
      some ⟨reading.pairs, ⟨reading.text, []⟩⟩ := by
    rw [Reading.behindClassRun, behindPairs]
    exact readTail?_of_plain pairs text wellFormed.text last
  refine read?_eq_some.2 ⟨_, _, _, _, _, _, _, readTag, readId?_append wellFormed.id stop',
    readClassRun?_append wellFormed.classRun stop, readTail, ?_⟩
  rw [indent.1, ← no_trail]

/-- Its attributes are its pairs as they are written. -/
theorem classify_written {reading : Reading} (plain : reading.Plain) :
    (classify (String.ofList reading.written)).placed? =
      some (reading.depth, { reading.fields with
        attributes := reading.pairs.map fun pair => String.ofList pair.written }) := by
  have segments : Attribute.segmentRun (attributeRun reading.pairs) =
      reading.pairs.map Pair.written := by
    refine Attribute.segmentRun_eq_map_written plain.wellFormed.pairs ?_
    intro pair member
    have plain_pair := plain.pairs pair member
    exact (Pair.whole_iff_of_no_quote plain_pair.key).2 plain_pair.value
  have fields : reading.fields = { reading.fields with
      attributes := reading.pairs.map fun pair => String.ofList pair.written } := by
    rw [Reading.fields, segments, List.map_map]
    rfl
  have read : read? (String.ofList reading.written).toList = some reading := by
    rw [String.toList_ofList, read?_written plain]
  rw [classify_of_read? read plain.wellFormed.tag, ← fields, Reading.kind]
  split
  · next root =>
    rw [root]
    rfl
  · rfl

end Shorthand.Line
