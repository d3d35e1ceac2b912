import Mathlib.Tactic.MkIffOfInductiveProp
import Shorthand.Forest.Document
import Shorthand.Proofs.Text.ToldApart
import Shorthand.Text.Split

/-!
# What HTML says of a document

HTML leaves out what a void element holds, and does not tell an unset text from an empty one. It
leaves out nothing else: pruning an element of these does not change its HTML (`html_prune`), and
from the HTML of a plain document, whose texts hold none of the characters that HTML gives a
meaning, the pruned document can be read off (`prune_eq_of_html_eq`). A tag says itself where it
ends. Behind it the first angle bracket decides: a slash follows it when the text was all, and a
name when the text ends in front of the indent of a child.
-/

namespace Shorthand

open Text (ToldApart toldApart_flatMap append_cons_inj)

namespace Element

/-! ## Pruning -/

mutual

/-- The element as its HTML shows it: nothing inside void elements, and a text, perhaps empty, in
all others. -/
def prune : Element → Element
  | ⟨name, attributes, children, text⟩ =>
    if isVoidTag name then ⟨name, attributes, [], none⟩
    else ⟨name, attributes, pruneForest children, some (text.getD "")⟩

/-- Elements that stand next to each other as their HTML shows them. -/
def pruneForest : List Element → List Element
  | [] => []
  | element :: rest => prune element :: pruneForest rest

end

theorem pruneForest_eq_map (forest : List Element) : pruneForest forest = forest.map prune := by
  induction forest with
  | nil => rfl
  | cons element rest ih => rw [pruneForest, ih, List.map_cons]

theorem isEmpty_pruneForest (forest : List Element) :
    (pruneForest forest).isEmpty = forest.isEmpty := by
  cases forest <;> rfl

mutual

theorem html_prune (options : RenderOptions) : (element : Element) →
    html options element.prune = html options element
  | ⟨name, attributes, children, text⟩ => by
    rw [prune]
    by_cases void : isVoidTag name = true
    · rw [if_pos void, html, html, if_pos void, if_pos void]
    · rw [if_neg void, html, html, if_neg void, if_neg void, childrenHtml_pruneForest,
        isEmpty_pruneForest]
      rfl

theorem childrenHtml_pruneForest (options : RenderOptions) : (children : List Element) →
    childrenHtml options (pruneForest children) = childrenHtml options children
  | [] => rfl
  | child :: rest => by
    rw [pruneForest, childrenHtml, childrenHtml, html_prune, childrenHtml_pruneForest]

end

end Element

/-! ## Plain elements -/

/-- An element whose texts cannot be mistaken for markup. -/
@[mk_iff] structure Row.Plain (row : Row) : Prop where
  name : row.name ≠ "" ∧ ∀ c ∈ row.name.toList, c.isAlphanum = true
  keys : ∀ entry ∈ row.attributes.entries, ∀ c ∈ [' ', '"', '=', '/', '>'], c ∉ entry.1.toList
  values : ∀ entry ∈ row.attributes.entries, '"' ∉ entry.2.toList
  text : ∀ text ∈ row.text, '<' ∉ text.toList

-- the characters of the texts are gone through, and not all characters that there are
instance (row : Row) : Decidable row.Plain :=
  haveI : Decidable (∀ c ∈ row.name.toList, c.isAlphanum = true) := List.decidableBAll _ _
  haveI (entry : String × String) :
      Decidable (∀ c ∈ [' ', '"', '=', '/', '>'], c ∉ entry.1.toList) := List.decidableBAll _ _
  decidable_of_iff' _ row.plain_iff

namespace Element

theorem mem_forestRowsAt {depth : Nat} {forest : List Element} {row : Row} :
    row ∈ forestRowsAt depth forest ↔ ∃ element ∈ forest, row ∈ rowsAt depth element := by
  induction forest with
  | nil => simp [forestRowsAt]
  | cons element rest ih => simp [forestRowsAt, ih]

/-! ## Tags -/

/-- What ends the opening tag of an element. -/
def tagEnd (name : String) : List Char := if isVoidTag name then [' ', '/', '>'] else ['>']

/-- The opening tag of an element, with what ends it. -/
def tag (head : String × List (String × String)) : List Char :=
  '<' :: (head.1.toList ++
    (head.2.flatMap (fun entry => (attributeHtml entry).toList) ++ tagEnd head.1))

theorem toList_attributeHtml (entry : String × String) :
    (attributeHtml entry).toList =
      ' ' :: (entry.1.toList ++ '=' :: '"' :: (entry.2.toList ++ ['"'])) := by
  simp [attributeHtml]

theorem toldApart_attributeHtml {entry entry' : String × String} (key : '=' ∉ entry.1.toList)
    (key' : '=' ∉ entry'.1.toList) (value : '"' ∉ entry.2.toList)
    (value' : '"' ∉ entry'.2.toList) :
    ToldApart (fun entry => (attributeHtml entry).toList) id entry entry' := by
  intro rest rest' same
  simp only [toList_attributeHtml, List.cons_append, List.append_assoc, List.nil_append,
    List.cons.injEq, true_and] at same
  obtain ⟨keys, behind⟩ := append_cons_inj key key' same
  obtain ⟨values, rests⟩ := append_cons_inj value value' (List.cons.inj behind).2
  exact ⟨Prod.ext (String.toList_inj.1 keys) (String.toList_inj.1 values), rests⟩

/-- What ends a tag is not the start of one more attribute, since no key starts with a slash. -/
theorem tagEnd_ne_attributeHtml (name : String) {entry : String × String}
    (key : '/' ∉ entry.1.toList) (rest rest' : List Char) :
    tagEnd name ++ rest ≠ (attributeHtml entry).toList ++ rest' := by
  intro same
  rw [toList_attributeHtml, tagEnd] at same
  by_cases void : isVoidTag name = true
  · simp only [if_pos void, List.cons_append, List.cons.injEq, true_and, List.append_assoc] at same
    cases chars : entry.1.toList with
    | nil =>
      rw [chars] at same
      simp at same
    | cons c others =>
      rw [chars, List.cons_append] at same
      rw [chars, ← (List.cons.inj same).1] at key
      exact key List.mem_cons_self
  · simp [if_neg void] at same

/-- Names and attributes whose tag says where each of them ends. -/
structure PlainHead (head : String × List (String × String)) : Prop where
  name : ∀ c ∈ head.1.toList, c.isAlphanum = true
  keys : ∀ entry ∈ head.2, '=' ∉ entry.1.toList ∧ '/' ∉ entry.1.toList
  values : ∀ entry ∈ head.2, '"' ∉ entry.2.toList

/-- No name goes on with what may follow it in a tag. -/
theorem head_behindName (name : String) (entries : List (String × String)) (rest : List Char) :
    ∀ c ∈ (entries.flatMap (fun entry => (attributeHtml entry).toList) ++
      (tagEnd name ++ rest)).head?, c.isAlphanum = false := by
  intro c first
  cases entries with
  | nil =>
    unfold tagEnd at first
    by_cases void : isVoidTag name = true
    · simp only [if_pos void, List.flatMap_nil, List.nil_append, List.cons_append,
        List.head?_cons, Option.mem_def, Option.some.injEq] at first
      subst first
      rfl
    · simp only [if_neg void, List.flatMap_nil, List.nil_append, List.cons_append,
        List.head?_cons, Option.mem_def, Option.some.injEq] at first
      subst first
      rfl
  | cons entry others =>
    simp only [List.flatMap_cons, toList_attributeHtml, List.cons_append, List.head?_cons,
      Option.mem_def, Option.some.injEq] at first
    subst first
    rfl

theorem toldApart_tag {head head' : String × List (String × String)} (plain : PlainHead head)
    (plain' : PlainHead head') : ToldApart tag id head head' := by
  obtain ⟨name, entries⟩ := head
  obtain ⟨name', entries'⟩ := head'
  intro rest rest' same
  simp only [tag, List.cons_append, List.append_assoc, List.cons.injEq, true_and] at same
  obtain ⟨names, behind⟩ := Text.append_inj_of_stop plain.name plain'.name
    (head_behindName name entries rest) (head_behindName name' entries' rest') same
  obtain rfl := String.toList_inj.1 names
  have attributes : ToldApart
      (fun entries => entries.flatMap (fun entry => (attributeHtml entry).toList) ++ tagEnd name)
      (List.map id) entries entries' := by
    refine toldApart_flatMap ?_ ?_
    · intro entry member entry' member'
      exact toldApart_attributeHtml (plain.keys entry member).1 (plain'.keys entry' member').1
        (plain.values entry member) (plain'.values entry' member')
    · intro entry member
      refine tagEnd_ne_attributeHtml name ?_
      rcases List.mem_append.1 member with member | member
      · exact (plain.keys entry member).2
      · exact (plain'.keys entry member).2
  obtain ⟨same_entries, rests⟩ := attributes rest rest' (by simpa using behind)
  rw [List.map_id, List.map_id] at same_entries
  exact ⟨by rw [id, id, same_entries], rests⟩

/-! ## What stands between tags -/

/-- A text that starts an opening tag. -/
def OpensTag (text : List Char) : Prop := ∃ c rest, text = '<' :: c :: rest ∧ c ≠ '/'

/-- An element behind a text that leads to it. -/
def led (options : RenderOptions) (lead : List Char) (element : Element) : List Char :=
  lead ++ (html options element).toList

/-- What leads to a child. -/
def childLead (options : RenderOptions) : List Char := '\n' :: options.indent.toList

/-- The children of an element, with the line feed in front of the closing tag. -/
def block (options : RenderOptions) (children : List Element) : List Char :=
  children.flatMap (led options (childLead options)) ++ if children.isEmpty then [] else ['\n']

theorem toList_childrenHtml (options : RenderOptions) (children : List Element) :
    (childrenHtml options children).toList =
      children.flatMap (led options (childLead options)) := by
  induction children with
  | nil => simp [childrenHtml]
  | cons child rest ih =>
    rw [childrenHtml, List.flatMap_cons, ← ih, led, childLead]
    simp

theorem toList_openingHtml (name : String) (attributes : AttributeMap) :
    (openingHtml name attributes).toList = '<' :: (name.toList ++
      attributes.entries.flatMap fun entry => (attributeHtml entry).toList) := by
  simp [openingHtml, String.toList_join, List.flatMap_map]

theorem toList_html (options : RenderOptions) (name : String) (attributes : AttributeMap)
    (children : List Element) (text : Option String) :
    (html options ⟨name, attributes, children, text⟩).toList =
      tag (name, attributes.entries) ++
        if isVoidTag name then []
        else (text.getD "").toList ++
          (block options children ++ '<' :: '/' :: (name.toList ++ ['>'])) := by
  have opening := toList_openingHtml name attributes
  rw [html]
  by_cases void : isVoidTag name = true
  · simp [if_pos void, opening, tag, tagEnd]
  · have feed : (if children = [] then "" else "\n").toList =
        if children = [] then [] else ['\n'] := by
      split <;> rfl
    simp [if_neg void, opening, tag, tagEnd, block, toList_childrenHtml, feed]

variable {options : RenderOptions} {lead : List Char}

theorem opensTag_html {element : Element}
    (name : element.name ≠ "" ∧ ∀ c ∈ element.name.toList, c.isAlphanum = true) :
    OpensTag (html options element).toList := by
  obtain ⟨elementName, attributes, children, text⟩ := element
  obtain ⟨some_name, letters⟩ := name
  rw [toList_html, tag]
  cases chars : elementName.toList with
  | nil => exact absurd (String.toList_eq_nil_iff.1 chars) some_name
  | cons c others =>
    refine ⟨c, _, by rw [List.cons_append, List.cons_append, List.cons_append], ?_⟩
    rintro rfl
    have letter := letters '/' (by rw [chars]; exact List.mem_cons_self)
    revert letter
    decide

/-- A closing tag is not mistaken for an element, whatever text stands in front of either. -/
theorem closing_ne_led {element : Element} (opens : OpensTag (html options element).toList)
    {text text' : List Char} (plain : '<' ∉ text) (plain' : '<' ∉ text' ++ lead)
    (rest rest' : List Char) :
    text ++ '<' :: '/' :: rest ≠ text' ++ (led options lead element ++ rest') := by
  intro same
  obtain ⟨c, inner, opening, other⟩ := opens
  have cut : text ++ '<' :: '/' :: rest = (text' ++ lead) ++ '<' :: c :: (inner ++ rest') := by
    rw [same, led, opening]
    simp
  obtain ⟨-, behind⟩ := append_cons_inj plain plain' cut
  exact other (List.cons.inj behind).1.symm

/-- Elements that are told apart are told apart behind a text that leads to each of them, up to the
closing tag on the next line. -/
theorem toldApart_led (plain : '<' ∉ lead) {first second : List Element}
    (told : ∀ a ∈ first, ∀ b ∈ second,
      ToldApart (fun element => (html options element).toList) prune a b)
    (opens : ∀ a ∈ first ++ second, OpensTag (html options a).toList) :
    ToldApart (fun forest => forest.flatMap (led options lead) ++ ['\n', '<', '/'])
      (List.map prune) first second := by
  refine toldApart_flatMap ?_ ?_
  · intro a member b member' rest rest' same
    rw [led, led, List.append_assoc, List.append_assoc] at same
    exact told a member b member' rest rest' (List.append_cancel_left same)
  · intro a member
    exact closing_ne_led (opens a member) (by decide : '<' ∉ ['\n'])
      (by simpa using plain : '<' ∉ [] ++ lead)

/-- Text and children in front of a closing tag are told apart when the children are. -/
theorem text_and_children_of_append (indent : '<' ∉ options.indent.toList)
    {children children' : List Element}
    (told : ∀ child ∈ children, ∀ child' ∈ children',
      ToldApart (fun child => (html options child).toList) prune child child')
    (opens : ∀ child ∈ children ++ children', OpensTag (html options child).toList)
    {text text' : List Char} (plain : '<' ∉ text) (plain' : '<' ∉ text')
    {rest rest' : List Char}
    (same : text ++ (block options children ++ '<' :: '/' :: rest) =
      text' ++ (block options children' ++ '<' :: '/' :: rest')) :
    text = text' ∧ children.map prune = children'.map prune ∧ rest = rest' := by
  have plain_lead : '<' ∉ childLead options := by simp [childLead, indent]
  have fore : '<' ∉ text ++ childLead options := by simp [plain, plain_lead]
  have fore' : '<' ∉ text' ++ childLead options := by simp [plain', plain_lead]
  unfold block at same
  cases children with
  | nil =>
    cases children' with
    | nil =>
      obtain ⟨texts, behind⟩ := append_cons_inj plain plain' (by simpa using same)
      exact ⟨texts, rfl, (List.cons.inj behind).2⟩
    | cons child' others' =>
      exact absurd (by simpa using same)
        (closing_ne_led (opens child' (by simp)) plain fore' rest _)
  | cons child others =>
    cases children' with
    | nil =>
      exact absurd (by simpa using same.symm)
        (closing_ne_led (opens child (by simp)) plain' fore rest' _)
    | cons child' others' =>
      have texts : text = text' := by
        obtain ⟨c, inner, opening, -⟩ := opens child (by simp)
        obtain ⟨c', inner', opening', -⟩ := opens child' (by simp)
        simp only [List.flatMap_cons, led, opening, opening', List.append_assoc] at same
        simp only [← List.append_assoc, List.cons_append] at same
        exact List.append_cancel_right (append_cons_inj fore fore' same).1
      subst texts
      have behind := List.append_cancel_left same
      obtain ⟨pruned, rests⟩ := toldApart_led plain_lead told opens rest rest'
        (by simpa using behind)
      exact ⟨rfl, pruned, rests⟩

/-! ## Elements -/

theorem plainHead_of_plain {row : Row} (plain : row.Plain) :
    PlainHead (row.name, row.attributes.entries) where
  name := plain.name.2
  keys entry member := ⟨plain.keys entry member '=' (by decide),
    plain.keys entry member '/' (by decide)⟩
  values := plain.values

theorem not_mem_text_of_plain {row : Row} (plain : row.Plain) :
    '<' ∉ (row.text.getD "").toList := by
  cases text : row.text with
  | none => simp
  | some value => exact plain.text value text

theorem opensTag_of_plain {element : Element} {depth : Nat}
    (plain : ∀ row ∈ rowsAt depth element, row.Plain) :
    OpensTag (html options element).toList := by
  apply opensTag_html
  obtain ⟨name, attributes, children, text⟩ := element
  exact (plain _ (by rw [rowsAt]; exact List.mem_cons_self)).name

theorem plain_of_mem_children {name : String} {attributes : AttributeMap} {children : List Element}
    {text : Option String} {depth : Nat}
    (plain : ∀ row ∈ rowsAt depth ⟨name, attributes, children, text⟩, row.Plain)
    {child : Element} (member : child ∈ children) :
    ∀ row ∈ rowsAt (depth + 1) child, row.Plain := by
  intro row row_member
  apply plain
  rw [rowsAt]
  exact List.mem_cons_of_mem _ (mem_forestRowsAt.2 ⟨child, member, row_member⟩)

/-- **The HTML of a plain element says where it ends**, and what the element is, pruned. -/
theorem toldApart_html (indent : '<' ∉ options.indent.toList) (first : Element) :
    ∀ depth, (∀ row ∈ rowsAt depth first, row.Plain) →
      ∀ second depth', (∀ row ∈ rowsAt depth' second, row.Plain) →
        ToldApart (fun element => (html options element).toList) prune first second := by
  induction first using Element.induction with
  | step name attributes children text ih =>
  intro depth plain second depth' plain'
  obtain ⟨name', attributes', children', text'⟩ := second
  intro rest rest' same
  have own := plain _ (by rw [rowsAt]; exact List.mem_cons_self)
  have own' := plain' _ (by rw [rowsAt]; exact List.mem_cons_self)
  simp only [toList_html, List.append_assoc] at same
  obtain ⟨heads, behind⟩ := toldApart_tag (plainHead_of_plain own) (plainHead_of_plain own') _ _
    same
  obtain ⟨rfl, entries⟩ := Prod.mk.inj heads
  obtain rfl := AttributeMap.ext entries
  rw [prune, prune]
  by_cases void : isVoidTag name = true
  · rw [if_pos void, if_pos void] at behind ⊢
    exact ⟨rfl, behind⟩
  · have told : ∀ child ∈ children, ∀ child' ∈ children',
        ToldApart (fun child => (html options child).toList) prune child child' := by
      intro child member child' member'
      exact ih child member (depth + 1) (plain_of_mem_children plain member) child' (depth' + 1)
        (plain_of_mem_children plain' member')
    have opens : ∀ child ∈ children ++ children', OpensTag (html options child).toList := by
      intro child member
      rcases List.mem_append.1 member with member | member
      · exact opensTag_of_plain (plain_of_mem_children plain member)
      · exact opensTag_of_plain (plain_of_mem_children plain' member)
    simp only [if_neg void, List.append_assoc, List.cons_append] at behind
    obtain ⟨texts, pruned, closings⟩ := text_and_children_of_append indent told opens
      (not_mem_text_of_plain own) (not_mem_text_of_plain own') behind
    have same_text : text.getD "" = text'.getD "" := String.toList_inj.1 texts
    rw [if_neg void, if_neg void, pruneForest_eq_map, pruneForest_eq_map, pruned, same_text]
    refine ⟨rfl, ?_⟩
    simpa using List.append_cancel_left closings

end Element

/-! ## Documents -/

namespace Document

open Element (html_prune pruneForest pruneForest_eq_map)

/-- The document as its HTML shows it. -/
def prune (document : Document) : Document := ⟨pruneForest document.roots⟩

/-- Whether all elements of a document are plain. -/
def Plain (document : Document) : Prop := ∀ row ∈ document.rows, row.Plain

instance (document : Document) : Decidable document.Plain :=
  inferInstanceAs (Decidable (∀ row ∈ document.rows, row.Plain))

theorem html_prune (options : RenderOptions) (document : Document) :
    document.prune.html options = document.html options := by
  have roots : document.prune.roots.map (Element.html options) =
      document.roots.map (Element.html options) := by
    rw [prune, pruneForest_eq_map, List.map_map]
    exact List.map_congr_left fun root _ => Element.html_prune options root
  rw [html, html, roots]

/-- With a line feed in front, every root stands on a line of its own. -/
theorem toList_html_led (options : RenderOptions) {roots : List Element} (some_root : roots ≠ []) :
    '\n' :: (html ⟨roots⟩ options).toList = roots.flatMap (Element.led options ['\n']) := by
  induction roots with
  | nil => exact absurd rfl some_root
  | cons root rest ih =>
    cases rest with
    | nil => simp [html, Element.led]
    | cons next rest =>
      have behind := ih (List.cons_ne_nil next rest)
      rw [html] at behind ⊢
      simp only [List.map_cons, String.intercalate_cons_cons, String.toList_append] at behind ⊢
      rw [List.flatMap_cons, ← behind, Element.led]
      simp

theorem roots_eq_nil_of_html_eq_empty {options : RenderOptions} {document : Document}
    (plain : document.Plain) (empty : document.html options = "") : document.roots = [] := by
  obtain ⟨roots⟩ := document
  cases roots with
  | nil => rfl
  | cons root rest =>
    have lines := toList_html_led options (List.cons_ne_nil root rest)
    have own : ∀ row ∈ Element.rowsAt 0 root, row.Plain := fun row member =>
      plain row (Element.mem_forestRowsAt.2 ⟨root, List.mem_cons_self, member⟩)
    obtain ⟨c, inner, opening, -⟩ : Element.OpensTag (Element.html options root).toList :=
      Element.opensTag_of_plain own
    rw [empty, List.flatMap_cons, Element.led, opening] at lines
    cases lines

theorem prune_eq_of_html_eq {options : RenderOptions} (indent : '<' ∉ options.indent.toList)
    {first second : Document} (plain : first.Plain) (plain' : second.Plain)
    (same : first.html options = second.html options) : first.prune = second.prune := by
  by_cases none : first.roots = []
  · have empty : second.html options = "" := by rw [← same, html, none]; rfl
    rw [prune, prune, none, roots_eq_nil_of_html_eq_empty plain' empty]
  by_cases none' : second.roots = []
  · have empty : first.html options = "" := by rw [same, html, none']; rfl
    exact absurd (roots_eq_nil_of_html_eq_empty plain empty) none
  have each : ∀ root ∈ first.roots, ∀ row ∈ Element.rowsAt 0 root, row.Plain :=
    fun root member row row_member =>
      plain row (Element.mem_forestRowsAt.2 ⟨root, member, row_member⟩)
  have each' : ∀ root ∈ second.roots, ∀ row ∈ Element.rowsAt 0 root, row.Plain :=
    fun root member row row_member =>
      plain' row (Element.mem_forestRowsAt.2 ⟨root, member, row_member⟩)
  have opens : ∀ root ∈ first.roots ++ second.roots,
      Element.OpensTag (Element.html options root).toList := by
    intro root member
    rcases List.mem_append.1 member with member | member
    · exact Element.opensTag_of_plain (each root member)
    · exact Element.opensTag_of_plain (each' root member)
  have roots : ToldApart (fun roots => roots.flatMap (Element.led options ['\n']) ++
      ['\n', '<', '/']) (List.map Element.prune) first.roots second.roots :=
    Element.toldApart_led (by decide)
      (fun root member root' member' => Element.toldApart_html indent root 0 (each root member)
        root' 0 (each' root' member')) opens
  have pruned := roots.view_eq (by
    rw [← toList_html_led options none, ← toList_html_led options none', same])
  rw [prune, prune, pruneForest_eq_map, pruneForest_eq_map, pruned]

/-- **HTML shows a document but for what void elements hold.** Documents that are equal when pruned
have the same HTML. With an indent that holds no angle bracket, plain documents that have the same
HTML are equal when pruned. -/
theorem html_shows_prune (options : RenderOptions) (first second : Document) :
    (first.prune = second.prune → first.html options = second.html options) ∧
      ('<' ∉ options.indent.toList → first.Plain → second.Plain →
        first.html options = second.html options → first.prune = second.prune) := by
  constructor
  · intro same
    rw [← html_prune options first, same, html_prune]
  · intro indent plain plain' same
    exact prune_eq_of_html_eq indent plain plain' same

/-- The indent is a line feed, a text ends with line feeds, an attribute has no key; the documents
differ in an unset text and in what an image holds. -/
theorem html_shows_prune_around_image :
    ∃ first second : Document, first ≠ second ∧ first.Plain ∧ second.Plain ∧
      first.html ⟨"\n"⟩ = second.html ⟨"\n"⟩ ∧ first.prune = second.prune ∧
      first.html {} = second.html {} := by
  let attributes : AttributeMap := AttributeMap.empty.insertAll [("", "/>"), ("class", "a b")]
  let image : Element := ⟨"img", attributes, [⟨"p", .empty, [], some "lost"⟩], some "lost"⟩
  let first : Document :=
    ⟨[⟨"div", attributes, [image, ⟨"p", .empty, [], none⟩], some "text\n\n"⟩,
      ⟨"br", .empty, [], none⟩]⟩
  let second : Document :=
    ⟨[⟨"div", attributes, [⟨"img", attributes, [], none⟩, ⟨"p", .empty, [], some ""⟩],
        some "text\n\n"⟩,
      ⟨"br", .empty, [], some ""⟩]⟩
  have plain : first.Plain := by decide +kernel
  have plain' : second.Plain := by decide +kernel
  have same : first.html ⟨"\n"⟩ = second.html ⟨"\n"⟩ := by decide +kernel
  have pruned : first.prune = second.prune :=
    (html_shows_prune ⟨"\n"⟩ first second).2 (by decide) plain plain' same
  exact ⟨first, second, by decide +kernel, plain, plain', same, pruned,
    (html_shows_prune {} first second).1 pruned⟩

end Document

end Shorthand
