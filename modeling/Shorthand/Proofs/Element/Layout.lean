import Mathlib.Data.List.Basic
import Shorthand.Proofs.Element.Html
import Shorthand.Proofs.Forest.Outline

/-!
# HTML line by line

The HTML of an element is written as nested text, with the HTML of each child pasted behind an
indent. Looked at from outside it is a flat list of lines: one for the opening tag of each element
that is shown, and one for each closing tag that could not stand on the line of its opening tag
(`splitOn_html`, `length_layout`). Only the first line of a child is indented, and only once, for
the lines below it are pasted as they are.
-/

namespace Shorthand

open Element (outlineAt outlineAt_cons outlineAt_nil outlineAt_append)

/-- Whether neither the key nor the value of an attribute holds a line feed. -/
def Attribute.NoFeed (pair : String × String) : Prop :=
  '\n' ∉ pair.1.toList ∧ '\n' ∉ pair.2.toList

/-- An entry none of whose texts holds a line feed. -/
structure Entry.NoFeed (entry : Entry) : Prop where
  name : '\n' ∉ entry.name.toList
  attributes : ∀ pair ∈ entry.attributes.entries, Attribute.NoFeed pair
  text : ∀ text ∈ entry.text, '\n' ∉ text.toList

namespace Element

/-! ## The lines of an element -/

mutual

/-- The lines of an element, the first of them behind `lead`. -/
def linesAt (options : RenderOptions) (lead : String) : Element → List String
  | ⟨name, attributes, children, text⟩ =>
    let opening := lead ++ openingHtml name attributes
    if isVoidTag name then [opening ++ " />"]
    else if children.isEmpty then [opening ++ ">" ++ text.getD "" ++ "</" ++ name ++ ">"]
    else (opening ++ ">" ++ text.getD "") :: (childLines options children ++ ["</" ++ name ++ ">"])

/-- The lines of children, each child behind one indent. -/
def childLines (options : RenderOptions) : List Element → List String
  | [] => []
  | child :: rest => linesAt options options.indent child ++ childLines options rest

end

mutual

/-- The elements of a preorder walk that does not go into void elements. -/
def shown : Element → List Element
  | ⟨name, attributes, children, text⟩ =>
    ⟨name, attributes, children, text⟩ :: if isVoidTag name then [] else shownForest children

def shownForest : List Element → List Element
  | [] => []
  | element :: rest => shown element ++ shownForest rest

end

/-- Whether the closing tag of an element stands on a line of its own. -/
def closesBelow (element : Element) : Bool := !element.isVoid && !element.children.isEmpty

theorem childLines_eq_flatMap (options : RenderOptions) (children : List Element) :
    childLines options children = children.flatMap (linesAt options options.indent) := by
  induction children with
  | nil => rfl
  | cons child rest ih => rw [childLines, ih, List.flatMap_cons]

theorem shownForest_eq_flatMap (forest : List Element) :
    shownForest forest = forest.flatMap shown := by
  induction forest with
  | nil => rfl
  | cons element rest ih => rw [shownForest, ih, List.flatMap_cons]

/-! ## The HTML of an element from its lines -/

variable (options : RenderOptions)

mutual

theorem flatMap_linesAt (lead : String) : (element : Element) →
    (linesAt options lead element).flatMap (fun line => '\n' :: line.toList) =
      led options ('\n' :: lead.toList) element
  | ⟨name, attributes, children, text⟩ => by
    rw [linesAt, led, html]
    by_cases void : isVoidTag name = true
    · simp [if_pos void]
    · by_cases childless : children = []
      · simp [if_neg void, childless, childrenHtml]
      · simp [if_neg void, childless, flatMap_childLines]

theorem flatMap_childLines : (children : List Element) →
    (childLines options children).flatMap (fun line => '\n' :: line.toList) =
      (childrenHtml options children).toList
  | [] => rfl
  | child :: rest => by
    rw [childLines, List.flatMap_append, flatMap_linesAt, flatMap_childLines, childrenHtml, led]
    simp

end

/-! ## How many lines there are -/

theorem length_flatMap_linesAt {lead : String} {forest : List Element}
    (each : ∀ element ∈ forest, (linesAt options lead element).length =
      (shown element).length + (shown element).countP closesBelow) :
    (forest.flatMap (linesAt options lead)).length =
      (forest.flatMap shown).length + (forest.flatMap shown).countP closesBelow := by
  induction forest with
  | nil => rfl
  | cons element rest ih =>
    obtain ⟨first, others⟩ := List.forall_mem_cons.1 each
    rw [List.flatMap_cons, List.flatMap_cons, List.length_append, List.length_append,
      List.countP_append, first, ih others]
    omega

theorem length_linesAt (lead : String) (element : Element) :
    (linesAt options lead element).length =
      (shown element).length + (shown element).countP closesBelow := by
  induction element using Element.induction generalizing lead with
  | step name attributes children text ih =>
  have below := length_flatMap_linesAt options fun child member => ih child member options.indent
  rw [linesAt, shown, List.countP_cons, childLines_eq_flatMap, shownForest_eq_flatMap]
  by_cases void : isVoidTag name = true
  · simp [void, closesBelow, isVoid]
  · by_cases childless : children = []
    · simp [void, childless, closesBelow, isVoid]
    · have closes : closesBelow ⟨name, attributes, children, text⟩ = true := by
        simp [closesBelow, isVoid, void, childless]
      rw [if_neg void, if_neg void, if_neg (by simpa using childless), if_pos closes,
        List.length_cons, List.length_cons, List.length_append, List.length_singleton, below]
      omega

/-! ## Lines without line feeds -/

theorem not_mem_openingHtml {name : String} {attributes : AttributeMap}
    (own_name : '\n' ∉ name.toList)
    (noFeed : ∀ pair ∈ attributes.entries, Attribute.NoFeed pair) :
    '\n' ∉ (openingHtml name attributes).toList := by
  intro member
  rw [toList_openingHtml, List.mem_cons, List.mem_append, List.mem_flatMap] at member
  rcases member with angle | name | ⟨pair, pair_member, member⟩
  · cases angle
  · exact own_name name
  · obtain ⟨key, value⟩ := noFeed pair pair_member
    simp [toList_attributeHtml, key, value] at member

theorem not_mem_getD {text : Option String} (h : ∀ content ∈ text, '\n' ∉ content.toList) :
    '\n' ∉ (text.getD "").toList := by
  cases text with
  | none => simp
  | some content => exact h content rfl

variable {options}

theorem mem_outlineAt_of_mem {forest : List Element} {element : Element} (member : element ∈ forest)
    {depth : Nat} {entry : Entry} (h : entry ∈ outlineAt depth [element]) :
    entry ∈ outlineAt depth forest := by
  obtain ⟨before, after, rfl⟩ := List.append_of_mem member
  rw [outlineAt_append, ← List.singleton_append, outlineAt_append]
  exact List.mem_append_right _ (List.mem_append_left _ h)

theorem not_mem_linesAt (indent : '\n' ∉ options.indent.toList) (element : Element) :
    ∀ (lead : String) (depth : Nat), '\n' ∉ lead.toList →
      (∀ entry ∈ outlineAt depth [element], entry.NoFeed) →
      ∀ line ∈ linesAt options lead element, '\n' ∉ line.toList := by
  induction element using Element.induction with
  | step name attributes children text ih =>
  intro lead depth own_lead noFeed
  rw [outlineAt_cons, outlineAt_nil, List.append_nil, List.forall_mem_cons] at noFeed
  obtain ⟨own, below⟩ := noFeed
  have own_name : '\n' ∉ name.toList := own.name
  have opening : '\n' ∉ (openingHtml name attributes).toList :=
    not_mem_openingHtml own.name own.attributes
  have content : '\n' ∉ (text.getD "").toList := not_mem_getD own.text
  have others : ∀ line ∈ childLines options children, '\n' ∉ line.toList := by
    intro line member
    rw [childLines_eq_flatMap] at member
    obtain ⟨child, child_member, member⟩ := List.mem_flatMap.1 member
    refine ih child child_member options.indent (depth + 1) indent ?_ line member
    exact fun entry entry_member => below entry (mem_outlineAt_of_mem child_member entry_member)
  rw [linesAt]
  by_cases void : isVoidTag name = true
  · simp [void, own_lead, opening]
  · by_cases childless : children = []
    · simp [void, childless, own_lead, opening, content, own_name]
    · intro line member
      simp only [void, childless, Bool.false_eq_true, if_false, List.isEmpty_iff, List.mem_cons,
        List.mem_append, List.not_mem_nil, or_false] at member
      rcases member with rfl | member | rfl
      · simp [own_lead, opening, content]
      · exact others line member
      · simp [own_name]

/-- An element ends with the bracket of a tag. -/
theorem getLast?_html (options : RenderOptions) (element : Element) :
    (html options element).toList.getLast? = some '>' := by
  obtain ⟨name, attributes, children, text⟩ := element
  rw [toList_html, tag, tagEnd]
  by_cases void : isVoidTag name = true
  · simp [void, List.getLast?_append, List.getLast?_cons]
  · simp [void, List.getLast?_append, List.getLast?_cons]

end Element

namespace Document

open Element (linesAt shown closesBelow)

/-- The lines of a document. Its roots are not indented. -/
def layout (document : Document) (options : RenderOptions) : List String :=
  document.roots.flatMap (linesAt options "")

theorem flatMap_layout (options : RenderOptions) {document : Document}
    (some_root : document.roots ≠ []) :
    (document.layout options).flatMap (fun line => '\n' :: line.toList) =
      '\n' :: (document.html options).toList := by
  rw [toList_html_led options some_root, layout, List.flatMap_assoc]
  exact List.flatMap_congr fun root _ => Element.flatMap_linesAt options "" root

theorem not_mem_layout {options : RenderOptions} (indent : '\n' ∉ options.indent.toList)
    {document : Document} (noFeed : ∀ entry ∈ outlineAt 0 document.roots, entry.NoFeed) :
    ∀ line ∈ document.layout options, '\n' ∉ line.toList := by
  intro line member
  obtain ⟨root, root_member, member⟩ := List.mem_flatMap.1 member
  exact Element.not_mem_linesAt indent root "" 0 List.not_mem_nil
    (fun entry entry_member => noFeed entry (Element.mem_outlineAt_of_mem root_member entry_member))
    line member

theorem splitOn_html {options : RenderOptions} {document : Document}
    (some_root : document.roots ≠ [])
    (no_feed : ∀ line ∈ document.layout options, '\n' ∉ line.toList) :
    (Text.splitOn '\n' (document.html options).toList).map String.ofList =
      document.layout options := by
  have cut : Text.splitOn '\n' ('\n' :: (document.html options).toList) =
      [] :: (document.layout options).flatMap fun line => Text.splitOn '\n' line.toList := by
    rw [← flatMap_layout options some_root]
    exact Text.splitOn_append_flatMap '\n' [] (document.layout options) String.toList
  have pieces : Text.splitOn '\n' (document.html options).toList =
      (document.layout options).map String.toList := by
    rw [Text.splitOn, if_pos rfl, List.cons_inj_right] at cut
    rw [cut, List.map_eq_flatMap]
    exact List.flatMap_congr fun line member => Text.splitOn_of_not_mem (no_feed line member)
  rw [pieces, List.map_map]
  simp

theorem length_layout (options : RenderOptions) (document : Document) :
    (document.layout options).length =
      (document.roots.flatMap shown).length +
        (document.roots.flatMap shown).countP closesBelow :=
  Element.length_flatMap_linesAt options fun root _ => Element.length_linesAt options "" root

theorem getLast?_html {options : RenderOptions} {document : Document}
    (some_root : document.roots ≠ []) : (document.html options).toList.getLast? = some '>' := by
  obtain ⟨others, last, roots⟩ := (List.eq_nil_or_concat' document.roots).resolve_left some_root
  have lines : '\n' :: (document.html options).toList =
      others.flatMap (Element.led options ['\n']) ++
        '\n' :: (Element.html options last).toList := by
    rw [toList_html_led options some_root, roots, List.flatMap_append, List.flatMap_singleton]
    rfl
  have ends := congrArg List.getLast? lines
  rw [List.getLast?_append, List.getLast?_cons, List.getLast?_cons, Element.getLast?_html] at ends
  -- without a character the document would end with the line feed put in front of it
  cases ending : (document.html options).toList.getLast? with
  | none => simp [ending] at ends
  | some c => simpa [ending] using ends

end Document

end Shorthand
