import Shorthand.Proofs.Element.Layout
import Shorthand.Proofs.Line.Endings
import Shorthand.Proofs.Line.Parts
import Shorthand.Proofs.Parse.Outline

/-!
# The HTML of a parsed source, line by line

The lines of a source that is cut at every line ending hold no line feed. Neither does a document
parsed from it: every field of a line is taken from that line (`mem_of_mem_texts`), and inserting
attributes puts nothing but spaces between values (`noFeed_insertAll`). So the only line feeds in
its HTML are those that the layout puts there, and cutting the HTML at them gives the layout back.
-/

namespace Shorthand

open Element (outlineAt shown closesBelow)

/-! ## The fields of a line -/

namespace Line

/-- Everything that the fields of a line hold. -/
def Fields.texts (fields : Fields) : List String :=
  [fields.tag, fields.id, fields.text] ++ fields.classTokens ++ fields.attributes

theorem mem_intercalate {sep : List Char} {parts : List (List Char)} {part : List Char}
    (member : part ∈ parts) {c : Char} (h : c ∈ part) : c ∈ sep.intercalate parts := by
  induction parts with
  | nil => cases member
  | cons first rest ih =>
    cases rest with
    | nil => simpa [List.mem_singleton.1 member] using h
    | cons next rest =>
      rw [List.intercalate_cons_cons]
      rcases List.mem_cons.1 member with rfl | member
      · simp [h]
      · simp [ih member]

theorem mem_markedText {mark part : String} {c : Char} (h : c ∈ part.toList) :
    c ∈ (markedText mark part).toList := by
  rw [markedText]
  by_cases missing : part = ""
  · simp [missing] at h
  · simp [missing, h]

theorem Fields.mem_written {fields : Fields} {text : String} (member : text ∈ fields.texts)
    {c : Char} (h : c ∈ text.toList) : c ∈ fields.written.toList := by
  have tokens : (".".intercalate fields.classTokens).toList =
      ['.'].intercalate (fields.classTokens.map String.toList) := String.toList_intercalate
  simp only [written, String.toList_append, tokens, String.toList_join, List.mem_append]
  simp only [texts, List.mem_append, List.mem_cons, List.not_mem_nil, or_false] at member
  rcases member with ((rfl | rfl | rfl) | token) | raw
  · simp [h]
  · simp [mem_markedText h]
  · simp [mem_markedText h]
  · simp [mem_intercalate (List.mem_map_of_mem token) h]
  · have behind : c ∈ (fields.attributes.map (" " ++ ·)).flatMap String.toList :=
      List.mem_flatMap.2 ⟨_, List.mem_map_of_mem raw, by simp [h]⟩
    simp [behind]

/-- Every field of a line is taken from the line. -/
theorem mem_of_mem_texts {line : String} {depth : Nat} {fields : Fields}
    (placed : (classify line).placed? = some (depth, fields)) {text : String}
    (member : text ∈ fields.texts) {c : Char} (h : c ∈ text.toList) : c ∈ line.toList := by
  obtain ⟨reading, read, known, -, rfl⟩ := exists_read?_of_placed? placed
  have on_line := Fields.mem_written member h
  rw [written_fields (wellFormed_of_read? read known).pairs, String.toList_ofList] at on_line
  rw [← written_of_read? read, Reading.written]
  simp only [List.mem_append] at on_line ⊢
  tauto

end Line

/-! ## The element of a line -/

namespace Attribute

theorem NoFeed.join {key current addition : String} (old : NoFeed (key, current))
    (added : '\n' ∉ addition.toList) : NoFeed (key, joinValues current addition) := by
  obtain ⟨own_key, own_value⟩ := old
  exact ⟨own_key, by simp [joinValues, own_value, added]⟩

theorem noFeed_insertEntry {key value : String} (own : NoFeed (key, value))
    {entries : List (String × String)} (noFeed : ∀ entry ∈ entries, NoFeed entry) :
    ∀ entry ∈ insertEntry key value entries, NoFeed entry := by
  induction entries with
  | nil => simpa [insertEntry] using own
  | cons first rest ih =>
    obtain ⟨old, others⟩ := List.forall_mem_cons.1 noFeed
    rw [insertEntry]
    split
    · exact List.forall_mem_cons.2 ⟨old.join own.2, others⟩
    · exact List.forall_mem_cons.2 ⟨old, ih others⟩

theorem noFeed_insertAll {pairs : List (String × String)} (own : ∀ pair ∈ pairs, NoFeed pair)
    {map : AttributeMap} (noFeed : ∀ entry ∈ map.entries, NoFeed entry) :
    ∀ entry ∈ (map.insertAll pairs).entries, NoFeed entry := by
  induction pairs generalizing map with
  | nil => exact noFeed
  | cons pair pairs ih =>
    obtain ⟨first, others⟩ := List.forall_mem_cons.1 own
    exact ih others (noFeed_insertEntry first noFeed)

theorem noFeed_of_readPair? {raw : String} (oneLine : '\n' ∉ raw.toList) {pair : String × String}
    (h : readPair? raw = some pair) : NoFeed pair := by
  obtain ⟨found, read, rfl⟩ := Option.map_eq_some_iff.1 h
  obtain ⟨written, -⟩ := Pair.read?_eq_some.1 read
  rw [written, Pair.written] at oneLine
  simp only [List.mem_append, List.mem_cons, not_or] at oneLine
  simp only [NoFeed, String.toList_ofList]
  exact ⟨oneLine.1.1, oneLine.1.2.2.2⟩

end Attribute

namespace Line

theorem not_mem_lowerCase {tag : String} (known : isShorthandTag tag = true) :
    '\n' ∉ (Text.lowerCase tag).toList := by
  have all : ∀ tag ∈ shorthandTags, ∀ c ∈ tag.toList, c.toNat < 0x80 ∧ c.toLower ≠ '\n' := by
    decide +kernel
  have letters := all tag (List.contains_iff_mem.1 known)
  rw [Text.lowerCase_of_ascii fun c member => (letters c member).1, String.toList_ofList]
  intro feed
  obtain ⟨c, member, lowered⟩ := List.mem_map.1 feed
  exact (letters c member).2 lowered

theorem noFeed_shorthandAttributes {fields : Fields}
    (noFeed : ∀ text ∈ fields.texts, '\n' ∉ text.toList) :
    ∀ pair ∈ Element.shorthandAttributes fields.id fields.classTokens fields.attributes,
      Attribute.NoFeed pair := by
  intro pair member
  simp only [Element.shorthandAttributes, List.mem_append, List.mem_map, List.mem_filterMap]
    at member
  rcases member with (id | ⟨token, token_member, rfl⟩) | ⟨raw, raw_member, read⟩
  · split at id
    · cases id
    · obtain rfl := List.mem_singleton.1 id
      exact ⟨show '\n' ∉ "id".toList by decide, noFeed _ (by simp [Fields.texts])⟩
  · have among : token ∈ fields.classTokens := List.mem_of_mem_drop token_member
    exact ⟨show '\n' ∉ "class".toList by decide, noFeed token (by simp [Fields.texts, among])⟩
  · exact Attribute.noFeed_of_readPair? (noFeed raw (by simp [Fields.texts, raw_member])) read

theorem noFeed_entryAt {line : String} {depth : Nat} {fields : Fields}
    (placed : (classify line).placed? = some (depth, fields)) (oneLine : '\n' ∉ line.toList)
    (level : Nat) : (fields.element.entryAt level).NoFeed := by
  obtain ⟨reading, -, known, -, tag⟩ := exists_read?_of_placed? placed
  have noFeed : ∀ text ∈ fields.texts, '\n' ∉ text.toList := by
    intro text member feed
    exact oneLine (mem_of_mem_texts placed member feed)
  constructor
  · exact not_mem_lowerCase (by rw [tag]; exact known)
  · exact Attribute.noFeed_insertAll (noFeed_shorthandAttributes noFeed) (by simp)
  · intro text same
    cases same
    exact noFeed _ (by simp [Fields.texts])

end Line

/-! ## The entries of a document -/

namespace Parse

theorem map_snd_clampDepths (limit : Nat) (lines : List (Nat × Line.Fields)) :
    (clampDepths limit lines).map (·.2) = lines.map (·.2) := by
  induction lines generalizing limit with
  | nil => rfl
  | cons line rest ih => simp [clampDepths, ih]

/-- Every entry of a parsed document is that of a line, but for its depth. -/
theorem exists_line_of_mem_outlineAt {options : ParseOptions} {source : String}
    {document : Document} (parsed : (parse options source).outcome = .ok document) {entry : Entry}
    (member : entry ∈ outlineAt 0 document.roots) :
    ∃ line ∈ options.lineEndings.split source, ∃ depth fields,
      (Line.classify line).placed? = some (depth, fields) ∧
        ∃ level, entry = fields.element.entryAt level := by
  rw [roots_of_parse parsed, ForestBuilder.outlineAt_forest, outline_foldl_of_closed rfl] at member
  simp only [ForestBuilder.outline_empty, List.nil_append, List.mem_map] at member
  obtain ⟨⟨level, fields⟩, clamped, rfl⟩ := member
  have among := List.mem_map_of_mem (f := (·.2)) clamped
  rw [map_snd_clampDepths] at among
  obtain ⟨⟨depth, fields'⟩, kept, rfl⟩ := List.mem_map.1 among
  obtain ⟨line, line_member, placed⟩ :=
    List.mem_filterMap.1 ((List.dropWhile_sublist _).mem kept)
  exact ⟨line, line_member, depth, fields', placed, level, rfl⟩

theorem noFeed_of_parse {options : ParseOptions} (endings : options.lineEndings = .any)
    {source : String} {document : Document}
    (parsed : (parse options source).outcome = .ok document) :
    ∀ entry ∈ outlineAt 0 document.roots, entry.NoFeed := by
  intro entry member
  obtain ⟨line, line_member, depth, fields, placed, level, rfl⟩ :=
    exists_line_of_mem_outlineAt parsed member
  rw [endings] at line_member
  obtain ⟨cut, cut_member, rfl⟩ := List.mem_map.1 line_member
  have oneLine : '\n' ∉ (String.ofList cut).toList := by
    rw [String.toList_ofList]
    exact LineEndings.not_mem_of_mem_cut_any cut_member
  exact Line.noFeed_entryAt placed oneLine level

/-- **The HTML of a source is laid out in lines**: cut at its line feeds, it is one line for each
element on a preorder walk that stays out of void elements, and one for the closing tag of each
element that is not void and has children. An indent stands in front of the opening tag of what is
not a root, and nowhere else. Nothing stands behind the last line. -/
theorem html_layout {options : ParseOptions} (endings : options.lineEndings = .any)
    {render : RenderOptions} (indent : '\n' ∉ render.indent.toList) {source : String}
    {document : Document} (parsed : (parse options source).outcome = .ok document)
    (some_root : document.roots ≠ []) :
    (Text.splitOn '\n' (document.html render).toList).map String.ofList = document.layout render ∧
      (document.layout render).length =
        (document.roots.flatMap shown).length +
          (document.roots.flatMap shown).countP closesBelow ∧
      (document.html render).toList.getLast? ≠ some '\n' := by
  have no_feed := Document.not_mem_layout indent (noFeed_of_parse endings parsed)
  refine ⟨Document.splitOn_html some_root no_feed, Document.length_layout render document, ?_⟩
  rw [Document.getLast?_html some_root]
  decide

/-- Two levels below a root, a void root with an element below it, and an indent of two spaces. -/
theorem html_layout_below_void :
    ∃ document, (parse {} "ul.nav\r\n li One\n  b bold\n br\nimg#i alt=\"a b\"\n p\np").outcome =
        .ok document ∧
      (Text.splitOn '\n' (document.html ⟨"  "⟩).toList).map String.ofList =
        ["<ul class=\"nav\">", "  <li>One", "  <b>bold</b>", "</li>", "  <br />", "</ul>",
          "<img id=\"i\" alt=\"a b\" />", "<p></p>"] ∧
      (document.roots.flatMap shown).length = 6 ∧
      (document.html ⟨"  "⟩).toList.getLast? ≠ some '\n' := by
  obtain ⟨document, parsed⟩ := Traced.exists_of_isOk
    (show (parse {} "ul.nav\r\n li One\n  b bold\n br\nimg#i alt=\"a b\"\n p\np").outcome.isOk =
      true by decide +kernel)
  have roots := roots_of_parse parsed
  have some_root : document.roots ≠ [] := by
    rw [roots]
    decide +kernel
  obtain ⟨lines, -, last⟩ :=
    html_layout rfl (show '\n' ∉ (RenderOptions.mk "  ").indent.toList by decide) parsed some_root
  refine ⟨document, parsed, lines.trans ?_, ?_, last⟩
  · rw [Document.layout, roots]
    decide +kernel
  · rw [roots]
    decide +kernel

end Parse

end Shorthand
